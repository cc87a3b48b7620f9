import Signpost.Proofs.Pattern
import Signpost.Proofs.Template.Slash

/-!
# Declared and captured names

A template declares the names of its placeholders, and its expression captures under the names of its
groups.  The name of a placeholder is put into the text of the expression as it is, so the two agree only if
the name is read back as the name of the group.

*Legible names.*  If the expression of a template can be read, each name without a closing angle bracket is
read back (`Template.legible_of_ofText?`).  Such a template captures under each of its names a part of the
path that is not empty.

*Broken names.*  A name with a closing bracket ends at the bracket, and the rest of it becomes part of the
expression.  No group has such a name, so no match binds it.  Hence a template captures what it declares
exactly if no name has the bracket in it, or if nothing matches at all (`Pattern.capturesEach_iff`).
-/

namespace Signpost

open Regex

/-! ## Names that are read back -/

/-- A placeholder whose name has no closing bracket in it and whose expression is one by itself. -/
structure Placeholder.Unbroken (p : Placeholder) : Prop where
  /-- No closing bracket is in the name. -/
  close_not_mem : '>' ∉ p.name
  /-- The expression is one by itself. -/
  fragment : Expr.Standalone p.kind.fragment

namespace Template

variable {r r' : Reading} {fuel : Nat} {more : Text}

/-- If a text is read that starts with the group of an unbroken placeholder, the name is read as one. -/
theorem legible_of_segment {seg : Text}
    (hseg : ∀ p ∈ [seg].filterMap Placeholder.ofSegment?, p.Unbroken) (hr : r.BlanksCount)
    (hread : readTokens fuel r (segmentRegex seg ++ more) = some r') :
    ∀ p ∈ [seg].filterMap Placeholder.ofSegment?, p.Legible := by
  intro p hp
  refine ⟨?_, (hseg p hp).fragment⟩
  have hplaceholder : Placeholder.ofSegment? seg = some p := by simpa using hp
  cases fuel with
  | zero => cases hread
  | succ fuel =>
      rw [segmentRegex, hplaceholder] at hread
      dsimp only at hread
      rw [Placeholder.regex_append, readTokens, hr.1, skip_false] at hread
      obtain ⟨⟨tok, rest⟩, hnext, -⟩ := Option.bind_eq_some_iff.1 hread
      exact isGroupName_of_next? (hseg p hp).close_not_mem hnext

theorem legible_of_row : ∀ {segs : List Text} {r : Reading} {fuel : Nat}, segs ≠ [] →
    (∀ p ∈ segs.filterMap Placeholder.ofSegment?, p.Unbroken) → r.BlanksCount →
    readTokens fuel r (Text.join '/' (segs.map segmentRegex) ++ more) = some r' →
    ∀ p ∈ segs.filterMap Placeholder.ofSegment?, p.Legible
  | [], _, _, hne, _, _, _ => absurd rfl hne
  | [seg], r, fuel, _, hsegs, hr, hread => by
      rw [List.map_singleton, Text.join_singleton] at hread
      exact legible_of_segment hsegs hr hread
  | seg :: next :: segs, r, fuel, _, hsegs, hr, hread => by
      rw [List.map_cons, Text.join_cons _ _ (by simp), List.append_assoc, List.cons_append] at hread
      rw [← List.singleton_append, List.filterMap_append, List.forall_mem_append] at hsegs ⊢
      have hfirst := legible_of_segment hsegs.1 hr hread
      -- The first segment and the slash after it are passed over, and the others are read next.
      obtain ⟨toks, hreads, hyields⟩ := exists_yields_segment hfirst
        ('/' :: (Text.join '/' ((next :: segs).map segmentRegex) ++ more))
      have hslash := hyields.append (Yields.char '/')
      obtain ⟨s, fuel', -, hs, hrest⟩ :=
        readTokens_of_reads (hreads.append (.cons rfl .nil)) hr hslash.blanks hread
      exact ⟨hfirst, legible_of_row (List.cons_ne_nil next segs) hsegs.2 hs hrest⟩

/-- If the expression of a template can be read, names without a closing bracket are read back. -/
theorem legible_of_ofText? {t : Template} (ht : ∀ p ∈ placeholders t, p.Unbroken) {e : Expr}
    (he : Expr.ofText? (anchoredRegex t) = some e) : Legible t := by
  obtain ⟨r, hread, -⟩ := Option.bind_eq_some_iff.1 he
  rw [anchoredRegex, regex_eq, List.append_assoc] at hread
  have hopen : Reads ("^(?:".toList ++ (Text.join '/' ((segments t).map segmentRegex) ++ ")$".toList))
      [.caret, .openFlags []] (Text.join '/' ((segments t).map segmentRegex) ++ ")$".toList) :=
    .cons rfl (.cons rfl .nil)
  obtain ⟨s, fuel, -, hs, hrest⟩ := readTokens_of_reads hopen ⟨rfl, by simp⟩
    (by simp [Token.switchesExtended]) hread
  exact legible_of_row (segments_ne_nil t) ht hs hrest

/-! ## Values are parts of the path -/

theorem infix_join_of_mem {part : Text} : ∀ {parts : List Text}, part ∈ parts →
    part <:+: Text.join '/' parts
  | [one], h => by
      obtain rfl := List.mem_singleton.1 h
      exact ⟨[], [], by simp [Text.join_singleton]⟩
  | first :: next :: parts, h => by
      rw [Text.join_cons _ _ (by simp)]
      rcases List.mem_cons.1 h with rfl | h
      · exact (List.prefix_append _ _).isInfix
      · exact (infix_join_of_mem h).trans ((List.suffix_cons _ _).trans (List.suffix_append _ _)).isInfix

theorem mem_parts_of_fillSegments {segs vs parts : List Text} (h : fillSegments segs vs = some parts) :
    ∀ b ∈ (segs.filterMap Placeholder.ofSegment?).zip vs, b.2 ∈ parts := by
  rw [fills_iff] at h
  induction h with
  | nil => simp
  | literal hseg _ ih =>
      rw [List.filterMap_cons_none hseg]
      exact fun b hb => List.mem_cons_of_mem _ (ih b hb)
  | value hseg _ ih =>
      rw [List.filterMap_cons_some hseg, List.zip_cons_cons, List.forall_mem_cons]
      exact ⟨List.mem_cons_self, fun b hb => List.mem_cons_of_mem _ (ih b hb)⟩

/-- A value with which a template is filled is a part of the path. -/
theorem infix_of_fill? {t : Template} {vs : List Text} {path : Text} (h : fill? t vs = some path) :
    ∀ b ∈ (placeholders t).zip vs, b.2 <:+: path := by
  obtain ⟨parts, hparts, rfl⟩ := Option.map_eq_some_iff.1 h
  exact fun b hb => infix_join_of_mem (mem_parts_of_fillSegments hparts b hb)

end Template

/-! ## Binding names -/

namespace Pattern

theorem get?_foldl_bind (captures : List (Text × Text)) (n : Text) : ∀ (names : List Text) (v : Vars),
    (names.foldl
      (fun v name =>
        match captures.lookup name with
        | some text => v.insert name text
        | none => v)
      v).get? n = (if n ∈ names then captures.lookup n else none).or (v.get? n)
  | [], v => rfl
  | name :: names, v => by
      rw [List.foldl_cons, get?_foldl_bind captures n names]
      by_cases hn : n = name
      · subst hn
        rw [if_pos List.mem_cons_self]
        cases captures.lookup n with
        | none => simp
        | some text =>
            rw [Vars.get?_insert, if_pos rfl]
            split <;> rfl
      · have hmem : n ∈ name :: names ↔ n ∈ names := by simp [hn]
        simp only [hmem]
        cases captures.lookup name with
        | none => rfl
        | some text => rw [Vars.get?_insert, if_neg hn]

/-- Of the names, those are bound that were captured, and no other is. -/
theorem get?_bind (names : List Text) (captures : List (Text × Text)) (n : Text) :
    (bind names captures).get? n = if n ∈ names then captures.lookup n else none :=
  (get?_foldl_bind captures n names .empty).trans Option.or_none

variable {s : Settings} {t : Template} {p : Pattern} {path : Text} {vars : Vars}

/-- A search captures under names that the expression has. -/
theorem mem_names_of_search? {e : Expr} (hprog : p.regex.prog = (Prog.ofExpr e 0).1) {caps : Captures}
    (h : p.regex.prog.search? path = some caps) : ∀ c ∈ caps, c.1 ∈ e.names := by
  rw [hprog] at h
  obtain ⟨_, x, y, -, hway⟩ := Prog.search?_sound h
  rw [Prog.way_ofExpr] at hway
  exact Expr.way_within e hway

/-- A name with a closing bracket in it is never bound. -/
theorem get?_of_close_mem (hp : compile s t = .ok p) {name : Text} (hname : '>' ∈ name)
    (h : p.captures? path = some vars) : vars.get? name = none := by
  obtain ⟨e, he, -, hprog⟩ := exists_of_compile hp
  obtain ⟨_, hcaps, rfl⟩ := Option.map_eq_some_iff.1 h
  obtain ⟨caps, hsearch, rfl⟩ := Option.map_eq_some_iff.1 hcaps
  have hnone : (caps.map fun c => (c.1, c.2.text)).lookup name = none := by
    rw [List.lookup_eq_none_iff]
    rintro _ hmem
    obtain ⟨c, hc, rfl⟩ := List.mem_map.1 hmem
    rw [bne_iff_ne]
    rintro rfl
    exact Expr.close_not_mem_names he _ (mem_names_of_search? hprog hsearch c hc) hname
  rw [get?_bind]
  split
  · exact hnone
  · rfl

/-! ## Declared and captured -/

/-- The names that a pattern declares are distinct, and a path that matches binds exactly these names, each
to a part of the path that is not empty. -/
structure CapturesEach (p : Pattern) : Prop where
  /-- No name is declared twice. -/
  distinct : p.params.Nodup
  /-- The names declared are bound, and no others are. -/
  bound : ∀ path vars, p.captures? path = some vars →
    ∀ name, vars.contains name = true ↔ name ∈ p.params
  /-- What a name is bound to is a part of the path and not empty. -/
  parts : ∀ path vars, p.captures? path = some vars → ∀ name value, vars.get? name = some value →
    value ≠ [] ∧ value <:+: path

/-- What a match binds is declared. -/
theorem mem_params_of_get? (h : p.captures? path = some vars) {name value : Text}
    (hvalue : vars.get? name = some value) : name ∈ p.params := by
  obtain ⟨_, -, rfl⟩ := Option.map_eq_some_iff.1 h
  rw [get?_bind] at hvalue
  split at hvalue
  · assumption
  · cases hvalue

/-- A name that is read back is bound to a part of the path. -/
theorem exists_get?_of_legible (ht : Template.Legible t) (hp : compile s t = .ok p)
    (h : p.captures? path = some vars) {q : Placeholder} (hq : q ∈ Template.placeholders t)
    (hraw : ∀ q ∈ Template.placeholders t, q.kind.isRaw = false) :
    ∃ v, vars.get? q.name = some v ∧ v ≠ [] ∧ v <:+: path := by
  obtain ⟨vs, _, hcaptured, hfill, hnodup, rfl⟩ := exists_fill_of_captures? ht hp h
  rw [← List.map_fst_zip (Nat.le_of_eq hcaptured.length_eq.symm)] at hq
  obtain ⟨⟨q, v⟩, hmem, rfl⟩ := List.mem_map.1 hq
  have haccepts := List.forall₂_zip (hcaptured.accepts hraw) hmem
  exact ⟨v, get?_zip_params hnodup _ hmem, haccepts.ne_nil (hraw q (List.of_mem_zip hmem).1),
    Template.infix_of_fill? hfill _ hmem⟩

/-- If the names are read back, each is captured. -/
theorem capturesEach_of_legible (hraw : ∀ q ∈ Template.placeholders t, q.kind.isRaw = false)
    (ht : Template.Legible t) (hp : compile s t = .ok p) : p.CapturesEach := by
  have hparams := params_of_compile hp
  have hbinds : ∀ {path vars}, p.captures? path = some vars → ∀ name ∈ p.params,
      ∃ v, vars.get? name = some v ∧ v ≠ [] ∧ v <:+: path := by
    intro path vars h name hname
    rw [hparams] at hname
    obtain ⟨q, hq, rfl⟩ := List.mem_map.1 hname
    exact exists_get?_of_legible ht hp h hq hraw
  refine ⟨?_, fun path vars h name => ⟨fun hbound => ?_, fun hname => ?_⟩,
    fun path vars h name value hvalue => ?_⟩
  · obtain ⟨e, he, -⟩ := exists_of_compile hp
    rw [hparams]
    exact nodup_params (ht.ofText?_anchoredRegex he).1
  · obtain ⟨value, hvalue⟩ := Option.isSome_iff_exists.1 hbound
    exact mem_params_of_get? h hvalue
  · obtain ⟨v, hv, -⟩ := hbinds h name hname
    exact Option.isSome_iff_exists.2 ⟨v, hv⟩
  · obtain ⟨v, hv, hpart⟩ := hbinds h name (mem_params_of_get? h hvalue)
    cases hvalue.symm.trans hv
    exact hpart

/-- A template without expressions of its own captures what it declares exactly if no name holds a closing
bracket, or if its names are distinct and no path matches. -/
theorem capturesEach_iff (hraw : ∀ q ∈ Template.placeholders t, q.kind.isRaw = false)
    (hp : compile s t = .ok p) :
    p.CapturesEach ↔ (∀ q ∈ Template.placeholders t, '>' ∉ q.name) ∨
      p.params.Nodup ∧ ∀ path, p.captures? path = none := by
  constructor
  · intro heach
    by_contra hnot
    rw [not_or, not_and] at hnot
    obtain ⟨hbroken, hmatch⟩ := hnot
    push Not at hbroken hmatch
    obtain ⟨q, hq, hclose⟩ := hbroken
    obtain ⟨path, hpath⟩ := hmatch heach.distinct
    obtain ⟨vars, hvars⟩ := Option.ne_none_iff_exists'.1 hpath
    have hname : q.name ∈ p.params := by
      rw [params_of_compile hp]
      exact List.mem_map_of_mem hq
    have hbound := (heach.bound path vars hvars q.name).2 hname
    rw [Vars.contains, get?_of_close_mem hp hclose hvars] at hbound
    cases hbound
  · rintro (hclose | ⟨hnodup, hnone⟩)
    · obtain ⟨e, he, -⟩ := exists_of_compile hp
      refine capturesEach_of_legible hraw (Template.legible_of_ofText? (fun q hq => ?_) he) hp
      exact ⟨hclose q hq, Kind.standalone (hraw q hq)⟩
    · refine ⟨hnodup, fun path vars h => ?_, fun path vars h => ?_⟩
      all_goals
        rw [hnone path] at h
        cases h

/-- A name with brackets of another kind in it is captured. -/
theorem captures?_of_index : ∃ p, compile {} "/<<row[0]:int>>".toList = .ok p ∧ p.CapturesEach ∧
    p.captures? "/12".toList = some ⟨[("row[0]".toList, "12".toList)]⟩ := by
  have hok : (compile {} "/<<row[0]:int>>".toList).toOption.isSome := by decide +kernel
  obtain ⟨p, hp⟩ := exists_ok_of_isSome hok
  have hcaptures : (compile {} "/<<row[0]:int>>".toList).toOption.bind (·.captures? "/12".toList) =
      some ⟨[("row[0]".toList, "12".toList)]⟩ := by
    decide +kernel
  rw [hp] at hcaptures
  exact ⟨p, hp, (capturesEach_iff (by decide) hp).2 (.inl (by decide)), hcaptures⟩

/-- A name with a closing bracket in it is declared, but the path that matches does not bind it. -/
theorem not_capturesEach_of_close : ∃ p, compile {} "/<<a>b:int>>".toList = .ok p ∧
    (∀ q ∈ Template.placeholders "/<<a>b:int>>".toList, q.kind.isRaw = false) ∧
    p.params = ["a>b".toList] ∧ p.captures? "/b>7".toList = some .empty ∧ ¬p.CapturesEach := by
  have hok : (compile {} "/<<a>b:int>>".toList).toOption.isSome := by decide +kernel
  obtain ⟨p, hp⟩ := exists_ok_of_isSome hok
  have hcaptures : (compile {} "/<<a>b:int>>".toList).toOption.bind (·.captures? "/b>7".toList) =
      some .empty := by
    decide +kernel
  rw [hp] at hcaptures
  have hparams : p.params = ["a>b".toList] := params_of_compile hp
  refine ⟨p, hp, by decide, hparams, hcaptures, fun heach => ?_⟩
  have hbound := (heach.bound _ _ hcaptures "a>b".toList).2 (by rw [hparams]; exact List.mem_cons_self)
  cases hbound

end Pattern

end Signpost
