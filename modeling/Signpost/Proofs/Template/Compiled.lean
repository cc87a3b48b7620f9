import Mathlib.Data.List.Nodup
import Signpost.Proofs.Pattern
import Signpost.Proofs.Regex.Taken

/-!
# Which templates are compiled

A template without expressions of its own, whose placeholders have identifiers for names, is an expression exactly
if no name comes twice (`Template.isSome_ofText?_iff`).  Whatever literal text stands in it, its characters are
taken one by one, and a group for a placeholder is refused only for its name (`Passes`).  No part nests deep, so
the limit on nesting is never met.

So for compiling there are four faults, looked for in this order: too many bytes, too many segments, a name that
comes twice, and machines that are larger than allowed (`Pattern.compile_eq`).
-/

namespace Signpost

open Regex

/-- The expression of a kind is a row of tokens that are taken by themselves and nest a few deep. -/
theorem Kind.exists_reading {k : Kind} (hk : k.isRaw = false) :
    ∃ toks whole, tokens? k.fragment.length k.fragment = some toks ∧ Reading.steps? {} toks = some whole ∧
      whole.outer = [] ∧ whole.names = [] ∧ whole.level.content.depth ≤ 4 := by
  cases k with
  | raw => cases hk
  | _ => exact ⟨_, _, rfl, rfl, rfl, rfl, Nat.le_of_ble_eq_true rfl⟩

/-! ## Rows of parts -/

/-- Some items more in the innermost group, the latest first, and some names more. -/
def Regex.Reading.add (r : Reading) (items : List Item) (names : List Text) : Reading :=
  ⟨{ r.level with items := items ++ r.level.items }, r.outer, names ++ r.names⟩

theorem Regex.Reading.add_add (r : Reading) (items items' : List Item) (names names' : List Text) :
    (r.add items names).add items' names' = r.add (items' ++ items) (names' ++ names) := by
  simp [add]

/-- Tokens that are always taken, as long as flags are as at the start and the names are new.  They give the names
and add items to the innermost group. -/
structure Passes (toks : List Token) (names : List Text) : Prop where
  /-- They do not switch `extended` on. -/
  blanks : ∀ tok ∈ toks, tok.switchesExtended = false
  /-- They are taken. -/
  steps : ∀ {r : Reading}, r.level.flags = {} → (names.reverse ++ r.names).Nodup →
    ∃ items : List Item, (∀ i ∈ items, i.depth ≤ 5) ∧ r.steps? toks = some (r.add items names.reverse)

namespace Passes

variable {toks toks' : List Token} {names names' : List Text}

theorem nil : Passes [] [] where
  blanks := by simp
  steps _ _ := ⟨[], by simp, rfl⟩

theorem append (h : Passes toks names) (h' : Passes toks' names') :
    Passes (toks ++ toks') (names ++ names') where
  blanks := List.forall_mem_append.2 ⟨h.blanks, h'.blanks⟩
  steps := by
    intro r hflags hnodup
    rw [List.reverse_append, List.append_assoc] at hnodup
    obtain ⟨items, hitems, hsteps⟩ := h.steps hflags (List.nodup_append.1 hnodup).2.1
    obtain ⟨items', hitems', hsteps'⟩ := h'.steps (r := r.add items names.reverse) hflags hnodup
    refine ⟨items' ++ items, List.forall_mem_append.2 ⟨hitems', hitems⟩, ?_⟩
    rw [Reading.steps?_append, hsteps, Option.bind_some, hsteps', Reading.add_add, List.reverse_append]

theorem char (c : Char) : Passes [.char c false] [] where
  blanks := by simp [Token.switchesExtended]
  steps := by
    intro r hflags _
    have hstep : r.step? (.char c false) = some (r.push (.char c) 0 true) := by
      rw [Reading.step?, hflags]
      rfl
    refine ⟨[⟨.char c, 0, true⟩], by simp, ?_⟩
    rw [Reading.steps?, List.foldlM_cons, hstep]
    rfl

theorem literal : ∀ t : Text, Passes (t.map (Token.char · false)) []
  | [] => .nil
  | c :: t => (char c).append (literal t)

/-- The tokens of a placeholder are taken if its name is new. -/
theorem placeholder {name : Text} {whole : Reading} (hblanks : ∀ tok ∈ toks, tok.switchesExtended = false)
    (hwhole : Reading.steps? {} toks = some whole) (hclosed : whole.outer = []) (hnames : whole.names = [])
    (hdepth : whole.level.content.depth ≤ 4) :
    Passes (.openGroup (some name) :: (toks ++ [.closeGroup])) [name] where
  blanks := by
    rw [List.forall_mem_cons, List.forall_mem_append]
    exact ⟨rfl, hblanks, by simp [Token.switchesExtended]⟩
  steps := by
    intro r hflags hnodup
    have hnew : name ∉ r.names := (List.nodup_cons.1 hnodup).1
    have hsteps := Reading.steps?_group_of_fresh hflags hwhole hclosed hnew (by simp [hnames])
    rw [hnames] at hsteps
    exact ⟨[_], by simpa using Nat.add_le_add_left hdepth 1, hsteps⟩

end Passes

/-! ## Templates -/

namespace Template

theorem length_le_escape (literal : Text) : literal.length ≤ (escape literal).length := by
  induction literal with
  | nil => exact Nat.le_refl 0
  | cons c literal ih =>
      rw [escape, List.flatMap_cons, ← escape, List.length_append, List.length_cons]
      split <;> simp <;> omega

theorem exists_passes_segment {seg : Text} (ht : ∀ q ∈ [seg].filterMap Placeholder.ofSegment?,
    isIdentifier q.name = true ∧ q.kind.isRaw = false) :
    ∃ toks, (∀ more, Reads (segmentRegex seg ++ more) toks more) ∧ toks.length ≤ (segmentRegex seg).length ∧
      Passes toks (([seg].filterMap Placeholder.ofSegment?).map Placeholder.name) := by
  unfold segmentRegex
  cases hseg : Placeholder.ofSegment? seg with
  | none =>
      rw [List.filterMap_cons_none hseg]
      refine ⟨_, reads_escape seg, ?_, .literal seg⟩
      rw [List.length_map]
      exact length_le_escape seg
  | some p =>
      rw [List.filterMap_cons_some hseg] at ht ⊢
      obtain ⟨hname, hkind⟩ := ht p List.mem_cons_self
      obtain ⟨toks, whole, htoks, hwhole, hclosed, hnames, hdepth⟩ := Kind.exists_reading hkind
      have hreads := reads_of_tokens? htoks
      have hblanks := (Kind.standalone hkind).blanks toks [] hreads
      refine ⟨_, Placeholder.reads_regex (.of_identifier hname) hreads, ?_,
        .placeholder hblanks hwhole hclosed hnames hdepth⟩
      have hlen := length_le_of_tokens? htoks
      simp [Placeholder.regex]
      omega

theorem exists_passes_row : ∀ {segs : List Text}, segs ≠ [] → (∀ q ∈ segs.filterMap Placeholder.ofSegment?,
    isIdentifier q.name = true ∧ q.kind.isRaw = false) →
    ∃ toks, (∀ more, Reads (Text.join '/' (segs.map segmentRegex) ++ more) toks more) ∧
      toks.length ≤ (Text.join '/' (segs.map segmentRegex)).length ∧
      Passes toks ((segs.filterMap Placeholder.ofSegment?).map Placeholder.name)
  | [], hne, _ => absurd rfl hne
  | [seg], _, ht => by
      rw [List.map_singleton, Text.join_singleton]
      exact exists_passes_segment ht
  | seg :: next :: segs, _, ht => by
      rw [← List.singleton_append, List.filterMap_append, List.forall_mem_append] at ht
      obtain ⟨toks, hreads, hlen, hpasses⟩ := exists_passes_segment ht.1
      obtain ⟨toks', hreads', hlen', hpasses'⟩ := exists_passes_row (List.cons_ne_nil next segs) ht.2
      rw [List.map_cons, Text.join_cons _ _ (by simp), ← List.singleton_append (x := seg),
        List.filterMap_append, List.map_append]
      refine ⟨toks ++ (.char '/' false :: toks'), fun more => ?_, ?_,
        hpasses.append ((Passes.char '/').append hpasses')⟩
      · rw [List.append_assoc, List.cons_append]
        exact (hreads _).append (.cons rfl (hreads' more))
      · simp only [List.length_append, List.length_cons]
        omega

variable {t : Template}
  (ht : ∀ q ∈ placeholders t, isIdentifier q.name = true ∧ q.kind.isRaw = false)

include ht

/-- If no name comes twice, the text of a template's expression is one. -/
theorem exists_ofText?_of_nodup (hnodup : (params t).Nodup) : ∃ e, Expr.ofText? (anchoredRegex t) = some e := by
  obtain ⟨toks, hreads, hlen, hpasses⟩ := exists_passes_row (segments_ne_nil t) ht
  obtain ⟨items, hitems, hsteps⟩ :=
    hpasses.steps (r := anchoredStart) rfl (by simpa [params, placeholders, anchoredStart] using hnodup)
  have hwhole := steps?_anchoredTokens toks
  rw [hsteps, Option.bind_some] at hwhole
  have hinner : (Item.seq (items ++ []).reverse).depth ≤ 6 :=
    Item.depth_seq_le (by simpa using hitems)
  refine ⟨_, Expr.ofText?_of_steps? (reads_anchoredRegex (hreads _)) ?_
    (blanks_anchoredTokens hpasses.blanks) hwhole rfl ?_⟩
  · simp [anchoredRegex, anchoredTokens, regex_eq]
    omega
  · show 1 + max (max (max 0 0) (1 + (Item.seq (items ++ []).reverse).depth)) 0 ≤ 250
    omega

/-- The text of a template's expression is one exactly if no name comes twice. -/
theorem isSome_ofText?_iff : (Expr.ofText? (anchoredRegex t)).isSome ↔ (params t).Nodup := by
  constructor
  · intro h
    obtain ⟨e, he⟩ := Option.isSome_iff_exists.1 h
    exact Pattern.nodup_params (ofText?_anchoredRegex (.of_identifiers ht) he).1
  · intro h
    exact Option.isSome_iff_exists.2 (exists_ofText?_of_nodup ht h)

end Template

/-! ## Compiling -/

/-- The size of the machines of a template: that of the larger one. -/
def Template.machineBytes (t : Template) : Nat :=
  ((Expr.ofText? (anchoredRegex t)).map fun e => max (e.machineBytes false) (e.machineBytes true)).getD 0

theorem Regex.Expr.fits_iff {e : Expr} {limit : Nat} :
    e.fits limit = true ↔ max (e.machineBytes false) (e.machineBytes true) ≤ limit := by
  rw [fits, Bool.and_eq_true, decide_eq_true_iff, decide_eq_true_iff, Nat.max_le]

section Compiling

variable {t : Template}
  (ht : ∀ q ∈ Template.placeholders t, isIdentifier q.name = true ∧ q.kind.isRaw = false)

include ht

/-- The expression of a template is refused for a name that comes twice or for its size. -/
theorem Template.compile_anchoredRegex : ∃ prog, ∀ limit, Regex.compile limit (anchoredRegex t) =
    if ¬(params t).Nodup then .error .malformed
    else if limit < machineBytes t then .error .tooLarge
    else .ok ⟨anchoredRegex t, prog⟩ := by
  have hiff := isSome_ofText?_iff ht
  cases he : Expr.ofText? (anchoredRegex t) with
  | none =>
      rw [he] at hiff
      refine ⟨(Prog.ofExpr .empty 0).1, fun limit => ?_⟩
      rw [Regex.compile, he, if_pos (by simpa using hiff)]
  | some e =>
      rw [he] at hiff
      have hbytes : machineBytes t = max (e.machineBytes false) (e.machineBytes true) := by
        rw [machineBytes, he]
        rfl
      refine ⟨(Prog.ofExpr e 0).1, fun limit => ?_⟩
      rw [Regex.compile, he, if_neg (not_not.2 (hiff.1 rfl)), hbytes]
      dsimp only
      split
      · next hfits => rw [if_neg (Nat.not_lt.2 (Expr.fits_iff.1 hfits))]
      · next hfits => rw [if_pos (Nat.not_le.1 (mt Expr.fits_iff.2 hfits))]

/-- Compiling a template looks for four faults in order, and gives the same pattern under all settings under
which it finds none. -/
theorem Pattern.compile_eq : ∃ p : Pattern, p.template = t ∧ ∀ s, compile s t =
    if s.maxPatternLength < Text.bytes t then
      .error (.patternTooLong (Text.bytes t) s.maxPatternLength)
    else if s.maxPathSegments < t.count '/' + 1 then
      .error (.tooManySegments (t.count '/' + 1) s.maxPathSegments)
    else if ¬(Template.params t).Nodup then .error (.invalidPattern t (.regex .malformed))
    else if s.regexSizeLimit < Template.machineBytes t then .error (.invalidPattern t (.regex .tooLarge))
    else .ok p := by
  obtain ⟨prog, hregex⟩ := Template.compile_anchoredRegex ht
  refine ⟨⟨t, ⟨Template.anchoredRegex t, prog⟩⟩, rfl, fun s => ?_⟩
  rw [compile, hregex]
  simp only [Template.length_segments, gt_iff_lt]
  split
  · rfl
  split
  · rfl
  by_cases hnodup : (Template.params t).Nodup
  · rw [if_neg (not_not.2 hnodup), if_neg (not_not.2 hnodup)]
    by_cases hsize : s.regexSizeLimit < Template.machineBytes t
    · rw [if_pos hsize, if_pos hsize]
    · rw [if_neg hsize, if_neg hsize]
  · rw [if_pos hnodup, if_pos hnodup]

end Compiling

end Signpost
