import Signpost.Route
import Signpost.Proofs.Template.Substitution

/-!
# Rebuilding paths

The path of a route is rebuilt from values in order or from values by name.  Values in order are first counted
against the placeholders, and only then taken one after another where the placeholders stand.  The count and the
traversal agree, so none is missing on the way and those too many are left over.  Values by name need no count:
they give what the same values give in the order of the placeholders, and the first name that has none is the
error.  All of this is in `Route.rebuilds`, which asks nothing of the template, be it one that compiles or not.
-/

namespace Signpost

namespace Route

/-- The error for so many values where there are more placeholders. -/
def insufficient (r : Route) (given : Nat) : RouteError :=
  .insufficientArguments r.qualifiedName r.params.length given

/-- What rebuilding the path of a route gives. -/
structure Rebuilds (r : Route) : Prop where
  /-- The error for values in order says how many are expected and given, and there is one exactly if too few are
  given. -/
  refused : ∀ args, r.url args =
    .error (.insufficientArguments r.qualifiedName r.params.length args.length) ↔
      args.length < r.params.length
  /-- Otherwise the values stand in place of the placeholders, in their order, and all else is kept. -/
  built : ∀ args, r.params.length ≤ args.length → ∃ parts,
    r.url args = .ok (Text.join '/' parts) ∧
      Template.Substituted (Template.segments r.path) args parts
  /-- Values beyond the placeholders do not count. -/
  extra : ∀ args, r.params.length ≤ args.length → r.url (args.take r.params.length) = r.url args
  /-- The values are counted before they are taken. -/
  counted : ∀ args, r.url args =
    if args.length < r.params.length then .error (r.insufficient args.length)
    else ((Template.fillM (fun _ => Template.nextValue (r.insufficient args.length)) r.path).run
      args).map Prod.fst
  /-- If the count was enough, no value is missing where it is to be taken, and those too many are left over. -/
  taken : ∀ args, r.params.length ≤ args.length → ∃ path,
    (Template.fillM (fun _ => Template.nextValue (r.insufficient args.length)) r.path).run args =
      .ok (path, args.drop r.params.length)
  /-- Values without slashes give a path with as many segments as the template has. -/
  segments : ∀ args path, (∀ v ∈ args.take r.params.length, '/' ∉ v) → r.url args = .ok path →
    (Template.segments path).length = (Template.segments r.path).length
  /-- Two rows of values without slashes that give the same path are the same as far as they count. -/
  told : ∀ args args' path, (∀ v ∈ args.take r.params.length, '/' ∉ v) →
    (∀ v ∈ args'.take r.params.length, '/' ∉ v) → r.url args = .ok path → r.url args' = .ok path →
      args.take r.params.length = args'.take r.params.length
  /-- Values by name give a path exactly if every placeholder has one. -/
  bound : ∀ vars, (∃ path, r.urlWith vars = .ok path) ↔ ∀ name ∈ r.params, vars.contains name = true
  /-- It is the path that the same values give in the order of the placeholders. -/
  agree : ∀ vars values, r.params.map vars.get? = values.map some →
    ∃ path, r.urlWith vars = .ok path ∧ r.url values = .ok path
  /-- The leftmost placeholder without a value is the error. -/
  missing : ∀ vars before name after, r.params = before ++ name :: after →
    (∀ n ∈ before, vars.contains n = true) → vars.contains name = false →
      r.urlWith vars = .error (.missingParameter r.qualifiedName name)
  /-- Looking up each value where it is to stand gives the same. -/
  looked : ∀ vars, r.urlWith vars =
    Template.fillM (Template.valueOf vars.get? (.missingParameter r.qualifiedName)) r.path

variable {r : Route} {args args' : List Text} {path : Text} {vars : Vars}

theorem url_eq_ok : r.url args = .ok path ↔ Template.fill? r.path args = some path := by
  rw [url]
  cases Template.fill? r.path args <;> simp

theorem url_of_lt (h : args.length < r.params.length) : r.url args = .error (r.insufficient args.length) := by
  rw [url, Template.fill?_eq_none_iff.2 h]
  rfl

theorem segments_of_url (hslash : ∀ v ∈ args.take r.params.length, '/' ∉ v) (h : r.url args = .ok path) :
    (Template.segments path).length = (Template.segments r.path).length := by
  have hfill := Template.fillSegments_of_fill? hslash (url_eq_ok.1 h)
  exact (Template.fills_iff.1 hfill).substituted.length_eq

/-- Names with values are names with values in order. -/
theorem exists_values (h : ∀ name ∈ r.params, vars.contains name = true) :
    ∃ values : List Text, r.params.map vars.get? = values.map some := by
  refine ⟨r.params.filterMap vars.get?, ?_⟩
  generalize r.params = names at h ⊢
  induction names with
  | nil => rfl
  | cons name names ih =>
      rw [List.forall_mem_cons] at h
      obtain ⟨v, hv⟩ := Option.isSome_iff_exists.1 h.1
      rw [List.map_cons, List.filterMap_cons_some hv, List.map_cons, hv, ih h.2]

theorem urlWith_of_values {values : List Text} (h : r.params.map vars.get? = values.map some) :
    ∃ path, r.urlWith vars = .ok path ∧ r.url values = .ok path := by
  obtain ⟨path, hwith, hfill⟩ := Template.exists_fillWith h
  exact ⟨path, by rw [urlWith, hwith]; rfl, url_eq_ok.2 hfill⟩

theorem urlWith_of_missing {before after : List Text} {name : Text} (h : r.params = before ++ name :: after)
    (hbefore : ∀ n ∈ before, vars.contains n = true) (hname : vars.contains name = false) :
    r.urlWith vars = .error (.missingParameter r.qualifiedName name) := by
  rw [urlWith, Template.fillWith_eq_error h hbefore (by simpa [Vars.contains] using hname)]
  rfl

/-- Of some names that not all have values, one is the leftmost that has none. -/
theorem exists_leftmost {names : List Text} (h : ¬∀ name ∈ names, vars.contains name = true) :
    ∃ before name after, names = before ++ name :: after ∧ (∀ n ∈ before, vars.contains n = true) ∧
      vars.contains name = false := by
  obtain ⟨name, hname⟩ : ∃ name, names.find? (!vars.contains ·) = some name := by
    rw [← Option.isSome_iff_exists, List.find?_isSome]
    simpa using h
  obtain ⟨hbound, before, after, hnames, hbefore⟩ := List.find?_eq_some_iff_append.1 hname
  exact ⟨before, name, after, hnames, by simpa using hbefore, by simpa using hbound⟩

/-- Paths are rebuilt from values in order and from values by name alike, and only a lack of values makes this
fail. -/
theorem rebuilds (r : Route) : r.Rebuilds where
  refused args := by
    refine ⟨fun h => ?_, url_of_lt⟩
    by_contra hge
    obtain ⟨path, hpath⟩ := Template.exists_fill? (Nat.le_of_not_lt hge)
    cases h.symm.trans (url_eq_ok.2 hpath)
  built args h := by
    rw [params, Template.params, List.length_map] at h
    obtain ⟨parts, hparts⟩ := Template.exists_fillSegments h
    exact ⟨parts, url_eq_ok.2 (by rw [Template.fill?, hparts, Option.map_some]),
      (Template.fills_iff.1 hparts).substituted⟩
  extra args h := by
    obtain ⟨path, hpath⟩ := Template.exists_fill? h
    rw [url_eq_ok.2 hpath, url_eq_ok, params, Template.fill?_take, hpath]
  counted args := by
    split
    · next hlt => exact url_of_lt hlt
    · next hge =>
        obtain ⟨path, hpath⟩ := Template.exists_fill? (Nat.le_of_not_lt hge)
        rw [url_eq_ok.2 hpath, Template.run_fillM _ hpath]
        rfl
  taken args h := by
    obtain ⟨path, hpath⟩ := Template.exists_fill? h
    exact ⟨path, Template.run_fillM _ hpath⟩
  segments args path := segments_of_url
  told args args' path hslash hslash' h h' :=
    Template.take_eq_of_fill? hslash hslash' (url_eq_ok.1 h) (url_eq_ok.1 h')
  bound vars := by
    constructor
    · rintro ⟨path, hpath⟩
      by_contra h
      obtain ⟨before, name, after, hnames, hbefore, hname⟩ := exists_leftmost h
      cases hpath.symm.trans (urlWith_of_missing hnames hbefore hname)
    · intro h
      obtain ⟨values, hvalues⟩ := exists_values h
      obtain ⟨path, hpath, -⟩ := urlWith_of_values hvalues
      exact ⟨path, hpath⟩
  agree vars values := urlWith_of_values
  missing vars before name after := urlWith_of_missing
  looked vars := by rw [urlWith, Template.fillM_valueOf]

-- A name that comes twice takes two values in order, and its own one twice by name.
example :
    let r : Route := ⟨"r".toList, "r".toList, "//<<a>>/<<b/<<a:int>>//".toList, true, {}⟩
    r.url ["1".toList, "2".toList, "3".toList] = .ok "//1/<<b/2//".toList ∧
      r.urlWith ⟨[("a".toList, "1".toList)]⟩ = .ok "//1/<<b/1//".toList ∧
      r.url ["1".toList] = .error (.insufficientArguments "r".toList 2 1) := by
  decide

end Route

end Signpost
