import Signpost.Proofs.Router.Dispatch
import Signpost.Proofs.Target.Written

/-!
# One target in two spellings

*Written out.*  Whatever is called during a dispatch is told of the URI of the target.  If the target starts with
a slash, this URI written out is a target again, which is read as the same URI and is therefore dispatched as the
first one (`Router.redispatches_of_slash`).

*A slash more.*  While slashes at the end do not count, a path and the path with one more slash have the same
match.  As targets, with a query or without, they are read as different URIs.  The slash is no part of an escape
and of no character, even if the path breaks off in the middle of one, so it is the last character of the decoded
path as well, and no other.  Therefore both are dispatched alike, but for the URI that the calls are told of
(`Router.slashBlind`).
-/

namespace Signpost

/-- The verdict of a hook does not depend on the URI. -/
def Hook.IgnoresUri {ι : Type} (h : Hook ι) : Prop :=
  ∀ (node : Node) (vars : Vars) (uri uri' : Uri), h.verdict ⟨node, vars, uri⟩ = h.verdict ⟨node, vars, uri'⟩

/-- A call told of another URI. -/
def Event.withUri {ι : Type} (uri : Uri) : Event ι → Event ι :=
  Event.retell fun ctx => { ctx with uri := uri }

namespace Router

variable {ι : Type} {r : Router ι}

/-! ## Written out -/

/-- The URI of a target, written out, is a target that is read and dispatched alike, and all calls are told of
it. -/
structure Redispatches (r : Router ι) (target : Text) (uri : Uri) : Prop where
  /-- It is read as the same URI. -/
  read : Uri.ofTarget uri.toText = .ok uri
  /-- The result and all calls are the same. -/
  same : r.tryDispatch uri.toText = r.tryDispatch target
  /-- Every call is told of the URI. -/
  told : ∀ e ∈ (r.tryDispatch target).2, ∃ node vars, e.context? = some ⟨node, vars, uri⟩

theorem runMatch_told (r : Router ι) (uri : Uri) (m : RouteMatch) :
    ∀ e ∈ (r.runMatch uri m).2, ∃ node vars, e.context? = some ⟨node, vars, uri⟩ := by
  unfold runMatch
  cases m.found with
  | none => simp
  | some found => exact fun e he => ⟨_, _, r.run_told _ e he⟩

/-- The URI that is told of a target with a slash at its start can be dispatched again by every router, because
encoding twice is encoding once. -/
theorem redispatches_of_slash {t : Text} {uri : Uri} (hok : Uri.ofTarget ('/' :: t) = .ok uri) :
    (∀ s, Percent.encode (Percent.encode s) = Percent.encode s) ∧
    ∀ r : Router ι, r.Redispatches ('/' :: t) uri := by
  refine ⟨Percent.encode_encode, fun r => ?_⟩
  have hread := Uri.ofTarget_toText hok
  exact
    { read := hread
      same := by rw [tryDispatch_of_ofTarget hread, tryDispatch_of_ofTarget hok]
      told := by
        rw [tryDispatch_of_ofTarget hok]
        exact r.runMatch_told uri _ }

/-- A target with a blank, with an escape that is broken and one of a byte that is no text, and with a fragment
after its query. -/
theorem redispatches_of_fragment :
    let uri : Uri := { path := "/a%20b/%zz%FF".toList, query := some "x=%C3%A9".toList }
    Uri.ofTarget "/a b/%zz%FF?x=é#y".toList = .ok uri ∧ uri.toText = "/a%20b/%zz%FF?x=%C3%A9".toList ∧
      ∀ r : Router Unit, r.Redispatches "/a b/%zz%FF?x=é#y".toList uri := by
  intro uri
  have hok : Uri.ofTarget "/a b/%zz%FF?x=é#y".toList = .ok uri := rfl
  exact ⟨hok, rfl, (redispatches_of_slash hok).2⟩

/-! ## A slash more -/

/-- A slash at the end, if it is not there and is not all, makes no difference to matching and dispatching. -/
structure SlashBlind (r : Router ι) : Prop where
  /-- The match is the same: route, variables and path. -/
  matched : ∀ path, path ≠ [] → path.getLast? ≠ some '/' → r.matchPath (path ++ ['/']) = r.matchPath path
  /-- With every query or none, the result is the same, and the calls are the same but for the URI. -/
  dispatched : ∀ rest query, '?' ∉ rest → '#' ∉ rest →
    (Percent.decodeText ('/' :: rest)).getLast? ≠ some '/' →
    Text.bytes (Percent.encode ('/' :: rest ++ '/' :: Uri.asking query)) ≤ Uri.maxLength →
    (∀ h ∈ r.hooks, h.IgnoresUri) →
    ∃ uri, Uri.ofTarget ('/' :: rest ++ '/' :: Uri.asking query) = .ok uri ∧
      r.tryDispatch ('/' :: rest ++ '/' :: Uri.asking query) =
        ((r.tryDispatch ('/' :: rest ++ Uri.asking query)).1,
          (r.tryDispatch ('/' :: rest ++ Uri.asking query)).2.map (Event.withUri uri))

theorem matchPath_append_slash (hpolicy : r.settings.skipTrailingSlash = true) {path : Text} (hpath : path ≠ [])
    (hlast : path.getLast? ≠ some '/') : r.matchPath (path ++ ['/']) = r.matchPath path := by
  have hkept : Template.trimSlash true path = path := by
    by_contra hne
    obtain ⟨-, b, -, rfl⟩ := Template.trimSlash_ne_iff.1 hne
    exact hlast List.getLast?_concat
  simp only [matchPath, hpolicy, Template.trimSlash_append_slash hpath, hkept]

/-- Hooks that ignore the URI let the same match run alike under another one. -/
theorem runMatch_withUri (hhooks : ∀ h ∈ r.hooks, h.IgnoresUri) (uri uri' : Uri) (m : RouteMatch) :
    r.runMatch uri' m = ((r.runMatch uri m).1, (r.runMatch uri m).2.map (Event.withUri uri')) := by
  unfold runMatch
  cases m.found with
  | none => rfl
  | some found =>
      obtain ⟨node, vars⟩ := found
      exact run_retell (fun ctx => { ctx with uri := uri' }) ⟨node, vars, uri⟩ rfl rfl rfl rfl rfl
        fun h hh => hhooks h hh node vars uri' uri

/-- A target is dispatched by its path, with every query or none. -/
theorem tryDispatch_asking {rest : Text} (hquery : '?' ∉ rest) (hfragment : '#' ∉ rest) {query : Option Text}
    (hlen : Text.bytes (Percent.encode ('/' :: rest ++ Uri.asking query)) ≤ Uri.maxLength) :
    ∃ uri, Uri.ofTarget ('/' :: rest ++ Uri.asking query) = .ok uri ∧
      ∀ r : Router ι, r.tryDispatch ('/' :: rest ++ Uri.asking query) =
        r.runMatch uri (r.matchPath (Percent.decodeText ('/' :: rest))) := by
  obtain ⟨uri, hok, -, hrun, -⟩ := tryDispatch_of_slash (ι := ι) (t := rest ++ Uri.asking query) hlen
  have hpath : Uri.beforeQuery ('/' :: rest ++ Uri.asking query) = '/' :: rest :=
    Uri.beforeQuery_append_asking (by simpa using hquery) (by simpa using hfragment) query
  rw [← List.cons_append, hpath] at hrun
  exact ⟨uri, hok, hrun⟩

/-- While slashes at the end do not count, one more makes no difference. -/
theorem slashBlind (hpolicy : r.settings.skipTrailingSlash = true) : r.SlashBlind where
  matched _ hpath hlast := matchPath_append_slash hpolicy hpath hlast
  dispatched rest query hquery hfragment hlast hlen hhooks := by
    have hshort : Text.bytes (Percent.encode ('/' :: rest ++ Uri.asking query)) ≤ Uri.maxLength := by
      refine Nat.le_trans ?_ hlen
      simp only [Percent.encode, List.flatMap_append, List.flatMap_cons, Text.bytes_append]
      omega
    obtain ⟨uri, -, hrun⟩ := tryDispatch_asking (ι := ι) hquery hfragment hshort
    have hmore : '/' :: rest ++ '/' :: Uri.asking query = '/' :: (rest ++ ['/']) ++ Uri.asking query := by simp
    rw [hmore] at hlen ⊢
    obtain ⟨uri', hok', hrun'⟩ := tryDispatch_asking (ι := ι) (by simpa using hquery) (by simpa using hfragment) hlen
    have hdecoded : Percent.decodeText ('/' :: (rest ++ ['/'])) = Percent.decodeText ('/' :: rest) ++ ['/'] :=
      Percent.decodeText_append (t := '/' :: rest) (by decide) (by decide) []
    have hne : Percent.decodeText ('/' :: rest) ≠ [] := by
      rw [Percent.decodeText_cons (Percent.startsEscape_of_ne (by decide) rest)]
      exact List.cons_ne_nil _ _
    refine ⟨uri', hok', ?_⟩
    rw [hrun', hrun, hdecoded, matchPath_append_slash hpolicy hne hlast]
    exact runMatch_withUri hhooks uri uri' _

/-- A route behind a hook that refuses one value, and two targets: one with the value, one that breaks off in the
middle of a character. -/
theorem slashBlind_of_broken :
    let hook : Hook Nat :=
      ⟨1, fun ctx => if ctx.vars.get? "n".toList = some "7".toList then some (.ofCode .forbidden) else none⟩
    let node : Node :=
      ⟨⟨"a".toList, "a".toList, "/a/<<n:int>>".toList, true, { skipTrailingSlash := true }⟩, .nil⟩
    let r : Router Nat :=
      { routes := node.toForest, settings := { skipTrailingSlash := true }, hooks := [hook] }
    let vars := Vars.empty.insert "n".toList "7".toList
    let uri : Uri := { path := "/a/7/".toList, query := some "x".toList }
    (r.Reached ∧ r.settings.skipTrailingSlash = true ∧ ∀ h ∈ r.hooks, h.IgnoresUri) ∧ r.SlashBlind ∧
      r.tryDispatch "/a/7/?x".toList =
        (.error (.ofCode .forbidden), [.hook 1 ⟨node, vars, uri⟩ (some (.ofCode .forbidden))]) ∧
      r.tryDispatch "/a/%C3/".toList =
        (.error (.notFound "no route found for path: /a/\ufffd".toList), []) := by
  intro hook node r vars uri
  let r₀ : Router Nat := { settings := { skipTrailingSlash := true } }
  let r₁ : Router Nat := { routes := node.toForest, settings := { skipTrailingSlash := true } }
  let short : Uri := { path := "/a/7".toList, query := some "x".toList }
  let broken : Uri := { path := "/a/%C3".toList }
  have hstart : r₀.Reached := .ofSettings (s := { skipTrailingSlash := true }) rfl
  have hregister : r₀.register [] ⟨"a".toList, "/a/<<n:int>>".toList, true⟩ = some (.ok r₁) := rfl
  have hr : r.Reached := (hstart.register hregister).addHook hook
  have hhooks : ∀ h ∈ r.hooks, h.IgnoresUri := by
    intro h hh
    obtain rfl := List.mem_singleton.1 hh
    exact fun _ _ _ _ => rfl
  have hblind : r.SlashBlind := slashBlind rfl
  have hfound : (r.matchPath short.decodedPath).found = some (node, vars) := by decide +kernel
  have hmiss : (r.matchPath broken.decodedPath).found = none := by decide +kernel
  refine ⟨⟨hr, rfl, hhooks⟩, hblind, ?_, ?_⟩
  · obtain ⟨uri', hok, hsame⟩ := hblind.dispatched "a/7".toList (some "x".toList) (by decide) (by decide)
      (by decide) (by decide) hhooks
    obtain rfl : uri = uri' := Except.ok.inj hok
    have hread : Uri.ofTarget "/a/7?x".toList = .ok short := rfl
    have hrun : r.tryDispatch "/a/7?x".toList = r.run ⟨node, vars, short⟩ := by
      rw [tryDispatch_of_ofTarget hread, runMatch, hfound]
    refine hsame.trans ?_
    rw [show '/' :: "a/7".toList ++ Uri.asking (some "x".toList) = "/a/7?x".toList from rfl, hrun]
    rfl
  · obtain ⟨_, -, hsame⟩ := hblind.dispatched "a/%C3".toList none (by decide) (by decide)
      (by decide) (by decide) hhooks
    have hread : Uri.ofTarget "/a/%C3".toList = .ok broken := rfl
    refine hsame.trans ?_
    rw [show '/' :: "a/%C3".toList ++ Uri.asking none = "/a/%C3".toList from rfl,
      tryDispatch_of_ofTarget hread, runMatch, hmiss]
    rfl

end Router

end Signpost
