import Signpost.Pattern
import Signpost.Proofs.Template.Unique

/-!
# Patterns and filled templates

A compiled template matches a path only if the path is the template filled with values, and what it
captures are these values (`Pattern.exists_fill_of_captures?`).  This holds for all kinds of placeholders.

If no kind has an expression of its own, a compiled template matches exactly the paths that are the
template filled with accepted values, and it captures the values with which the path was filled, as long
as at most one placeholder accepts slashes (`Pattern.isMatch_iff_and_captures?`).
-/

namespace Signpost

open Regex

theorem Regex.Spot.Takes.before_ne_none {x y : Spot} {taken : Text} (h : x.Takes taken y)
    (hx : x.before ≠ none) : y.before ≠ none := by
  induction h with
  | nil => exact hx
  | cons _ ih => exact ih (by simp)

/-- The start of a text is the only place without a character before it. -/
theorem Regex.Spot.Takes.eq_nil_of_before {x y : Spot} {taken : Text} (h : x.Takes taken y)
    (hy : y.before = none) : taken = [] := by
  cases h with
  | nil => rfl
  | cons h => exact absurd hy (h.before_ne_none (by simp))

/-! ## Binding names -/

namespace Vars

theorem insertInto_of_not_mem {name value : Text} : ∀ {l : List (Text × Text)},
    name ∉ l.map Prod.fst → insertInto name value l = l ++ [(name, value)]
  | [], _ => rfl
  | (n, v) :: l, h => by
      rw [List.map_cons, List.mem_cons, not_or] at h
      rw [insertInto, if_neg (Ne.symm h.1), insertInto_of_not_mem h.2, List.cons_append]

theorem get?_zip {names values : List Text} (hnodup : names.Nodup) : ∀ b ∈ names.zip values,
    get? ⟨names.zip values⟩ b.1 = some b.2 := by
  induction names generalizing values with
  | nil => simp
  | cons name names ih =>
      cases values with
      | nil => simp
      | cons v values =>
          rw [List.nodup_cons] at hnodup
          rintro ⟨n, w⟩ hb
          rw [List.zip_cons_cons] at hb
          rw [get?, List.zip_cons_cons, List.lookup_cons]
          rcases List.mem_cons.1 hb with heq | hrest
          · cases heq
            simp
          · have hne : (n == name) = false := by
              rw [beq_eq_false_iff_ne]
              rintro rfl
              exact hnodup.1 (List.of_mem_zip hrest).1
            rw [hne]
            exact ih hnodup.2 (n, w) hrest

end Vars

namespace Pattern

theorem foldl_bind {captures : List (Text × Text)} : ∀ {names values : List Text}
    (bound : List (Text × Text)), names.Nodup → values.length = names.length →
    (∀ name ∈ names, name ∉ bound.map Prod.fst) →
    (∀ b ∈ names.zip values, captures.lookup b.1 = some b.2) →
    names.foldl
      (fun v name =>
        match captures.lookup name with
        | some text => v.insert name text
        | none => v)
      (⟨bound⟩ : Vars) = ⟨bound ++ names.zip values⟩
  | [], values, bound, _, _, _, _ => by rw [List.foldl_nil, List.zip_nil_left, List.append_nil]
  | name :: names, [], _, _, hlen, _, _ => by cases hlen
  | name :: names, v :: values, bound, hnodup, hlen, hfresh, hlookup => by
      rw [List.nodup_cons] at hnodup
      rw [List.zip_cons_cons, List.forall_mem_cons] at hlookup
      rw [List.forall_mem_cons] at hfresh
      have hinsert : Vars.insert ⟨bound⟩ name v = ⟨bound ++ [(name, v)]⟩ := by
        rw [Vars.insert, Vars.insertInto_of_not_mem hfresh.1]
      have hfresh' : ∀ n ∈ names, n ∉ (bound ++ [(name, v)]).map Prod.fst := by
        intro n hn
        rw [List.map_append, List.mem_append, not_or]
        refine ⟨hfresh.2 n hn, fun hmem => ?_⟩
        rw [List.map_singleton, List.mem_singleton] at hmem
        subst hmem
        exact hnodup.1 hn
      rw [List.foldl_cons, hlookup.1]
      dsimp only
      rw [hinsert, foldl_bind _ hnodup.2 (Nat.succ.inj hlen) hfresh' hlookup.2, List.zip_cons_cons,
        List.append_assoc, List.singleton_append]

/-- If every name has a capture, the variables are the names with their captures. -/
theorem bind_eq {captures : List (Text × Text)} {names values : List Text} (hnodup : names.Nodup)
    (hlen : values.length = names.length)
    (hlookup : ∀ b ∈ names.zip values, captures.lookup b.1 = some b.2) :
    bind names captures = ⟨names.zip values⟩ :=
  foldl_bind [] hnodup hlen (by simp) hlookup

/-! ## Compiled templates -/

/-- A compiled template is its expression's text with the program that is made of it. -/
theorem eq_of_compile {s : Settings} {t : Template} {p : Pattern} (h : compile s t = .ok p) :
    ∃ e, Expr.ofText? (Template.anchoredRegex t) = some e ∧
      p = ⟨t, ⟨Template.anchoredRegex t, (Prog.ofExpr e 0).1⟩⟩ := by
  simp only [compile] at h
  split at h
  · cases h
  · split at h
    · cases h
    · split at h
      · next regex hregex =>
          cases h
          unfold Regex.compile at hregex
          split at hregex
          · cases hregex
          · next e he =>
              split at hregex
              · cases hregex
                exact ⟨e, he, rfl⟩
              · cases hregex
      · cases h

/-- A compiled template searches with the program of its expression. -/
theorem exists_of_compile {s : Settings} {t : Template} {p : Pattern} (h : compile s t = .ok p) :
    ∃ e, Expr.ofText? (Template.anchoredRegex t) = some e ∧ p.template = t ∧
      p.regex.prog = (Prog.ofExpr e 0).1 := by
  obtain ⟨e, he, rfl⟩ := eq_of_compile h
  exact ⟨e, he, rfl, rfl⟩

/-- A template within the limits is compiled to the program of its expression. -/
theorem compile_of_ofText? {s : Settings} {t : Template} {e : Expr} (hlength : Text.bytes t ≤ s.maxPatternLength)
    (hcount : (Template.segments t).length ≤ s.maxPathSegments)
    (he : Expr.ofText? (Template.anchoredRegex t) = some e) (hfits : e.fits s.regexSizeLimit = true) :
    compile s t = .ok ⟨t, ⟨Template.anchoredRegex t, (Prog.ofExpr e 0).1⟩⟩ := by
  have hregex : Regex.compile s.regexSizeLimit (Template.anchoredRegex t) =
      .ok ⟨Template.anchoredRegex t, (Prog.ofExpr e 0).1⟩ := by
    rw [Regex.compile, he]
    dsimp only
    rw [if_pos hfits]
  rw [compile, if_neg (Nat.not_lt.2 hlength), if_neg (Nat.not_lt.2 hcount), hregex]

variable {s : Settings} {t : Template} {p : Pattern} {path : Text}

theorem params_of_compile (hp : compile s t = .ok p) : p.params = Template.params t := by
  obtain ⟨_, -, htemplate, -⟩ := exists_of_compile hp
  rw [params, htemplate]

/-- What a search in a path captures are values with which the path is the template filled. -/
theorem exists_fill_of_legible (ht : Template.Legible t) (hp : compile s t = .ok p)
    {caps : Captures} (h : p.regex.prog.search? path = some caps) :
    ∃ vs, Captured (Template.placeholders t) vs caps ∧ Template.fill? t vs = some path ∧
      Placeholder.Distinct (Template.placeholders t) := by
  obtain ⟨e, he, -, hprog⟩ := exists_of_compile hp
  obtain ⟨hdistinct, hway, -⟩ := ht.ofText?_anchoredRegex he
  rw [hprog] at h
  obtain ⟨skipped, x, y, hskipped, h⟩ := Prog.search?_sound h
  rw [Prog.way_ofExpr, hway] at h
  obtain ⟨_, _, _, ⟨hstart, rfl, rfl⟩, ⟨z, cs, _, hrow, ⟨hend, rfl, rfl⟩, rfl⟩, rfl⟩ := h
  obtain ⟨vs, filled, hcaptured, hfill, htakes⟩ := Template.exists_fill_of_way hrow
  have hnil := hskipped.eq_nil_of_before (by simpa [Anchor.holds] using hstart)
  subst hnil
  have hrest : y.rest = [] := by simpa [Anchor.holds] using hend
  have hpath : path = filled := by
    rw [Spot.Takes.nil_iff] at hskipped
    have h := htakes.rest_eq
    rwa [hskipped, hrest, List.append_nil] at h
  rw [List.append_nil]
  exact ⟨vs, hcaptured, hpath ▸ hfill, hdistinct⟩

/-- Identifiers for names are enough for this. -/
theorem exists_fill_of_search? (ht : Template.Readable t) (hp : compile s t = .ok p)
    {caps : Captures} (h : p.regex.prog.search? path = some caps) :
    ∃ vs, Captured (Template.placeholders t) vs caps ∧ Template.fill? t vs = some path ∧
      Placeholder.Distinct (Template.placeholders t) :=
  exists_fill_of_legible ht.legible hp h

/-- Names bound to values give each placeholder its value, if no name comes twice. -/
theorem get?_zip_params {vs : List Text} (hnodup : (Template.params t).Nodup) :
    ∀ b ∈ (Template.placeholders t).zip vs,
      Vars.get? ⟨(Template.params t).zip vs⟩ b.1.name = some b.2 := by
  intro b hb
  refine Vars.get?_zip hnodup (b.1.name, b.2) ?_
  rw [Template.params, List.zip_map_left]
  exact List.mem_map.2 ⟨b, hb, rfl⟩

theorem nodup_params (h : Placeholder.Distinct (Template.placeholders t)) :
    (Template.params t).Nodup := by
  refine List.pairwise_map.2 (h.imp fun hpq heq => hpq ?_)
  rw [heq]
  exact List.mem_cons_self

/-- What a search captured becomes the variables: each placeholder has its value. -/
theorem captures?_of_search? (hp : compile s t = .ok p) {caps : Captures} {vs : List Text}
    (hdistinct : Placeholder.Distinct (Template.placeholders t))
    (h : p.regex.prog.search? path = some caps) (hcaptured : Captured (Template.placeholders t) vs caps) :
    p.captures? path = some ⟨(Template.params t).zip vs⟩ := by
  rw [captures?, Compiled.captures?, h, Option.map_some, Option.map_some, params_of_compile hp]
  refine congrArg some (bind_eq (nodup_params hdistinct) ?_ ?_)
  · rw [hcaptured.length_eq, Template.params, List.length_map]
  · rw [Template.params, List.zip_map_left]
    intro b hb
    obtain ⟨c, hc, rfl⟩ := List.mem_map.1 hb
    exact hcaptured.lookup hdistinct c hc

/-- What a compiled template captures are values with which the path is the template filled. -/
theorem exists_fill_of_captures? (ht : Template.Legible t) (hp : compile s t = .ok p) {vars : Vars}
    (h : p.captures? path = some vars) :
    ∃ vs caps, Captured (Template.placeholders t) vs caps ∧ Template.fill? t vs = some path ∧
      (Template.params t).Nodup ∧ vars = ⟨(Template.params t).zip vs⟩ := by
  obtain ⟨_, hcaps, -⟩ := Option.map_eq_some_iff.1 h
  obtain ⟨caps, hsearch, -⟩ := Option.map_eq_some_iff.1 hcaps
  obtain ⟨vs, hcaptured, hfill, hdistinct⟩ := exists_fill_of_legible ht hp hsearch
  have hvars := captures?_of_search? hp hdistinct hsearch hcaptured
  exact ⟨vs, caps, hcaptured, hfill, nodup_params hdistinct, Option.some.inj (h.symm.trans hvars)⟩

/-- What a compiled template captures, by the names of the placeholders, fills the template to the path. -/
theorem fillWith_of_captures? (ht : Template.Readable t) (hp : compile s t = .ok p) {vars : Vars}
    (h : p.captures? path = some vars) : Template.fillWith t vars.get? = .ok path := by
  obtain ⟨vs, _, -, hfill, hnodup, rfl⟩ := exists_fill_of_captures? ht.legible hp h
  obtain ⟨parts, hparts, rfl⟩ := Option.map_eq_some_iff.1 hfill
  rw [Template.fillWith, Template.fillSegmentsWith_of_zip hparts (get?_zip_params hnodup)]
  rfl

/-! ## Matching is filling -/

/-- The parts of a row of segments have what literals and the groups of its placeholders have. -/
theorem forall_mem_rowExprs {Q : Expr → Prop} (hliteral : ∀ t, Q (.literal t)) : ∀ {segs : List Text},
    (∀ q ∈ segs.filterMap Placeholder.ofSegment?, Q q.expr) → ∀ e ∈ Template.rowExprs segs, Q e := by
  have hsegment : ∀ {seg : Text}, (∀ q, Placeholder.ofSegment? seg = some q → Q q.expr) →
      ∀ e ∈ Template.segmentExprs seg, Q e := by
    intro seg hvalues e he
    unfold Template.segmentExprs at he
    split at he
    · next q hq =>
        rw [List.mem_singleton.1 he]
        exact hvalues q hq
    · obtain ⟨c, -, rfl⟩ := List.mem_map.1 he
      exact hliteral _
  intro segs hvalues
  have hall : ∀ seg ∈ segs, ∀ e ∈ Template.segmentExprs seg, Q e := fun seg hseg =>
    hsegment fun q hq => hvalues q (List.mem_filterMap.2 ⟨seg, hseg, hq⟩)
  clear hvalues hsegment
  induction segs with
  | nil => exact fun e he => by cases he
  | cons seg segs ih =>
      rw [List.forall_mem_cons] at hall
      cases segs with
      | nil => exact hall.1
      | cons next segs =>
          intro e he
          rcases List.mem_append.1 he with he | he
          · exact hall.1 e he
          · rcases List.mem_cons.1 he with rfl | he
            · exact hliteral _
            · exact ih hall.2 e he

theorem linear_exprs (hraw : ∀ q ∈ Template.placeholders t, q.kind.isRaw = false) :
    ∀ e ∈ Template.exprs t, e.Linear :=
  forall_mem_rowExprs (fun _ => .literal) fun q hq => .group (Kind.linear_body (hraw q hq))

/-- The values of placeholders whose kinds have no expressions of their own. -/
def Accepted (t : Template) (vs : List Text) : Prop :=
  List.Forall₂ (fun q v => q.kind.Accepts v) (Template.placeholders t) vs

/-- Every text can be taken from its start to its end. -/
theorem exists_takes_all (path : Text) :
    ∃ y, (Spot.start path).Takes path y ∧ y.rest = [] :=
  Spot.exists_takes path (by rw [Spot.start, List.append_nil])

/-- The program of a compiled template has a way over any path that is the template filled with accepted
values, and the way captures these. -/
theorem exists_way_of_accepted
    (ht : ∀ q ∈ Template.placeholders t, isIdentifier q.name = true ∧ q.kind.isRaw = false)
    (hp : compile s t = .ok p) {vs : List Text} (hvs : Accepted t vs)
    (hfill : Template.fill? t vs = some path) :
    ∃ y cs, Captured (Template.placeholders t) vs cs ∧ p.regex.prog.way (.start path) y cs := by
  obtain ⟨e, he, -, hprog⟩ := exists_of_compile hp
  obtain ⟨-, hway, -⟩ := Template.ofText?_anchoredRegex (.of_identifiers ht) he
  obtain ⟨filled, hfilled, htaken⟩ := Template.exists_way_of_fill (fun q hq => (ht q hq).2) hvs
  cases hfilled.symm.trans hfill
  obtain ⟨y, htakes, hend⟩ := exists_takes_all path
  obtain ⟨cs, hrow, hcaptured⟩ := htaken _ _ htakes
  have hall : ([] ++ cs) ++ [] = cs := by rw [List.append_nil, List.nil_append]
  refine ⟨y, ([] ++ cs) ++ [], by rwa [hall], ?_⟩
  rw [hprog, Prog.way_ofExpr, hway]
  exact ⟨_, [], [] ++ cs, ⟨rfl, rfl, rfl⟩, ⟨y, cs, [], hrow, ⟨by rw [hend]; rfl, rfl, rfl⟩, rfl⟩, rfl⟩

/-- The program of a compiled template is made of an expression that has what all parts of the template have. -/
theorem exists_ofExpr_of_exprs
    (ht : ∀ q ∈ Template.placeholders t, isIdentifier q.name = true ∧ q.kind.isRaw = false)
    (hp : compile s t = .ok p) : ∃ e, p.regex.prog = (Prog.ofExpr e 0).1 ∧
      ∀ {Q : Expr → Prop}, Expr.Kept Q → (∀ a, Q (.anchor a)) → (∀ f ∈ Template.exprs t, Q f) → Q e := by
  obtain ⟨e, he, -, hprog⟩ := exists_of_compile hp
  exact ⟨e, hprog, (Template.ofText?_anchoredRegex (.of_identifiers ht) he).2.2⟩

theorem exists_linear_prog
    (ht : ∀ q ∈ Template.placeholders t, isIdentifier q.name = true ∧ q.kind.isRaw = false)
    (hp : compile s t = .ok p) : ∃ n, Prog.Linear 0 p.regex.prog n := by
  obtain ⟨e, hprog, hkept⟩ := exists_ofExpr_of_exprs ht hp
  have hlinear := hkept Expr.linear_kept (fun _ => .anchor) (linear_exprs fun q hq => (ht q hq).2)
  rw [hprog]
  exact ⟨_, Prog.linear_ofExpr hlinear 0⟩

/-- A path that is a template filled with accepted values is found to match. -/
theorem exists_search?_of_fill
    (ht : ∀ q ∈ Template.placeholders t, isIdentifier q.name = true ∧ q.kind.isRaw = false)
    (hp : compile s t = .ok p) {vs : List Text} (hvs : Accepted t vs)
    (hfill : Template.fill? t vs = some path) : ∃ caps, p.regex.prog.search? path = some caps := by
  obtain ⟨n, hlinear⟩ := exists_linear_prog ht hp
  obtain ⟨_, _, -, hway⟩ := exists_way_of_accepted ht hp hvs hfill
  exact Prog.exists_search?_of_way hlinear hway

theorem nodup_params_of_compile
    (ht : ∀ q ∈ Template.placeholders t, isIdentifier q.name = true ∧ q.kind.isRaw = false)
    (hp : compile s t = .ok p) : (Template.params t).Nodup := by
  obtain ⟨e, he, -⟩ := exists_of_compile hp
  exact nodup_params (Template.ofText?_anchoredRegex (.of_identifiers ht) he).1

/-- Whatever is matched is the template filled with accepted values, and these are captured. -/
theorem exists_captures?_of_isMatch
    (ht : ∀ q ∈ Template.placeholders t, isIdentifier q.name = true ∧ q.kind.isRaw = false)
    (hp : compile s t = .ok p) (h : p.isMatch path = true) :
    ∃ vs, Accepted t vs ∧ Template.fill? t vs = some path ∧
      p.captures? path = some ⟨(Template.params t).zip vs⟩ := by
  obtain ⟨caps, hsearch⟩ := Option.isSome_iff_exists.1 h
  obtain ⟨vs, hcaptured, hfill, hdistinct⟩ := exists_fill_of_search? (.of_identifiers ht) hp hsearch
  exact ⟨vs, hcaptured.accepts fun q hq => (ht q hq).2, hfill,
    captures?_of_search? hp hdistinct hsearch hcaptured⟩

/-- A path that is a template filled with accepted values has these values captured, if at most one
placeholder accepts slashes. -/
theorem captures?_of_fill
    (ht : ∀ q ∈ Template.placeholders t, isIdentifier q.name = true ∧ q.kind.isRaw = false)
    (hp : compile s t = .ok p) (hany : Template.slashCount (Template.placeholders t) ≤ 1)
    {vs : List Text} (hvs : Accepted t vs) (hfill : Template.fill? t vs = some path) :
    p.captures? path = some ⟨(Template.params t).zip vs⟩ := by
  have hraw : ∀ q ∈ Template.placeholders t, q.kind.isRaw = false := fun q hq => (ht q hq).2
  have hmatch : p.isMatch path = true :=
    Option.isSome_iff_exists.2 (exists_search?_of_fill ht hp hvs hfill)
  obtain ⟨ws, hws, hfill', hcaptures⟩ := exists_captures?_of_isMatch ht hp hmatch
  rw [hcaptures, Template.fill?_inj hany ⟨hraw, hws⟩ ⟨hraw, hvs⟩ hfill' hfill]

/-- A compiled template without expressions of its own matches exactly the paths that are the template
filled with accepted values.  If at most one placeholder accepts slashes, the values are told by the path,
and they are what is captured. -/
theorem isMatch_iff_and_captures?
    (ht : ∀ q ∈ Template.placeholders t, isIdentifier q.name = true ∧ q.kind.isRaw = false)
    (hp : compile s t = .ok p) :
    (∀ path, p.isMatch path = true ↔
      ∃ vs, Accepted t vs ∧ Template.fill? t vs = some path) ∧
    (Template.slashCount (Template.placeholders t) ≤ 1 → (Template.params t).Nodup ∧
      ∀ path vs, Accepted t vs → Template.fill? t vs = some path →
        p.captures? path = some ⟨(Template.params t).zip vs⟩ ∧
        ∀ ws, Accepted t ws → Template.fill? t ws = some path → ws = vs) := by
  have hraw : ∀ q ∈ Template.placeholders t, q.kind.isRaw = false := fun q hq => (ht q hq).2
  have hreadable : Template.Readable t := fun q hq => ⟨(ht q hq).1, Kind.standalone (ht q hq).2⟩
  refine ⟨fun path => ⟨fun h => ?_, fun h => ?_⟩, fun hany => ⟨?_, fun path vs hvs hfill => ?_⟩⟩
  · obtain ⟨caps, hsearch⟩ := Option.isSome_iff_exists.1 h
    obtain ⟨vs, hcaptured, hfill, -⟩ := exists_fill_of_search? hreadable hp hsearch
    exact ⟨vs, hcaptured.accepts hraw, hfill⟩
  · obtain ⟨vs, hvs, hfill⟩ := h
    exact Option.isSome_iff_exists.2 (exists_search?_of_fill ht hp hvs hfill)
  · obtain ⟨e, he, -⟩ := exists_of_compile hp
    exact nodup_params (Template.ofText?_anchoredRegex hreadable he).1
  · exact ⟨captures?_of_fill ht hp hany hvs hfill, fun ws hws hfill' =>
      Template.fill?_inj hany ⟨hraw, hws⟩ ⟨hraw, hvs⟩ hfill' hfill⟩

theorem exists_ok_of_isSome {ε α : Type} {x : Except ε α} (h : x.toOption.isSome) : ∃ a, x = .ok a := by
  cases x with
  | ok a => exact ⟨a, rfl⟩
  | error e => cases h

/-- A template with a character that expressions give a meaning, and two values for it. -/
theorem captures?_of_literal_dot : ∃ p,
    compile {} "/a.b/<<id:int>>/<<tag:slug>>".toList = .ok p ∧
      p.isMatch "/a.b/12/x-y".toList = true ∧
      p.captures? "/a.b/12/x-y".toList =
        some ⟨[("id".toList, "12".toList), ("tag".toList, "x-y".toList)]⟩ := by
  have hok : (compile {} "/a.b/<<id:int>>/<<tag:slug>>".toList).toOption.isSome := by
    decide +kernel
  obtain ⟨p, hp⟩ := exists_ok_of_isSome hok
  have hvs : Accepted "/a.b/<<id:int>>/<<tag:slug>>".toList ["12".toList, "x-y".toList] :=
    .cons ⟨by decide, List.all_eq_true.1 rfl⟩ (.cons ⟨by decide, List.all_eq_true.1 rfl⟩ .nil)
  obtain ⟨hmatch, hcaptures⟩ := isMatch_iff_and_captures? (by decide) hp
  exact ⟨p, hp, (hmatch _).2 ⟨_, hvs, rfl⟩, ((hcaptures (by decide)).2 _ _ hvs rfl).1⟩

end Pattern

end Signpost
