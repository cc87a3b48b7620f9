import Mathlib.Data.List.Forall2
import Signpost.Proofs.Template.Expression

/-!
# Ways through a template

A way through the expressions of a template takes the template filled with values, one for each
placeholder, and captures each value under the name of its placeholder (`Template.exists_fill_of_way`).
Conversely, if every value is accepted by the kind of its placeholder, some way takes the template filled
with them and captures them (`Template.exists_way_of_fill`).

*Captures.*  `Captured ps vs cs` says what is captured, latest first: for each placeholder its value and,
before it, what its body captured inside the value.  No name of a placeholder comes again further on, so
looking up a name gives its value (`Captured.lookup`).
-/

namespace Signpost

open Regex

/-- What placeholders and their values are captured as, latest first. -/
inductive Captured : List Placeholder → List Text → Captures → Prop where
  /-- No placeholder. -/
  | nil : Captured [] [] []
  /-- One placeholder before others. -/
  | cons {p : Placeholder} {ps : List Placeholder} {v : Text} {vs : List Text} {cs ds : Captures}
      {x y : Spot} : p.kind.body.way x y ds → x.Takes v y → Captured ps vs cs →
      Captured (p :: ps) (v :: vs) (cs ++ (p.name, x.span y) :: ds)

namespace Captured

variable {ps : List Placeholder} {vs : List Text} {cs : Captures}

theorem length_eq (h : Captured ps vs cs) : vs.length = ps.length := by
  induction h with
  | nil => rfl
  | cons _ _ _ ih => rw [List.length_cons, List.length_cons, ih]

theorem append {qs : List Placeholder} {ws : List Text} {ds : Captures} (h : Captured ps vs cs)
    (h' : Captured qs ws ds) : Captured (ps ++ qs) (vs ++ ws) (ds ++ cs) := by
  induction h with
  | nil => simpa using h'
  | cons hway htakes _ ih =>
      rw [← List.append_assoc]
      exact .cons hway htakes ih

/-- Only placeholders and their bodies capture. -/
theorem mem_names (h : Captured ps vs cs) : ∀ c ∈ cs, ∃ p ∈ ps, c.1 ∈ p.names := by
  induction h with
  | nil => simp
  | @cons p ps v vs cs ds x y hway _ _ ih =>
      intro c hc
      rcases List.mem_append.1 hc with hc | hc
      · obtain ⟨q, hq, hmem⟩ := ih c hc
        exact ⟨q, List.mem_cons_of_mem _ hq, hmem⟩
      · refine ⟨p, List.mem_cons_self, ?_⟩
        rcases List.mem_cons.1 hc with rfl | hc
        · exact List.mem_cons_self
        · exact List.mem_cons_of_mem _ (Expr.way_within _ hway c hc)

/-- The latest capture under the name of a placeholder is its value. -/
theorem lookup (h : Captured ps vs cs) (hps : Placeholder.Distinct ps) :
    ∀ b ∈ ps.zip vs, (cs.map fun c => (c.1, c.2.text)).lookup b.1.name = some b.2 := by
  induction h with
  | nil => simp
  | @cons p ps v vs cs ds x y _ htakes hrest ih =>
      obtain ⟨hp, hps⟩ := List.pairwise_cons.1 hps
      intro b hb
      rw [List.map_append, List.lookup_append]
      rw [List.zip_cons_cons] at hb
      rcases List.mem_cons.1 hb with rfl | hb
      · have hnone : (cs.map fun c => (c.1, c.2.text)).lookup p.name = none := by
          rw [List.lookup_eq_none_iff]
          rintro _ hc'
          obtain ⟨c, hc, rfl⟩ := List.mem_map.1 hc'
          obtain ⟨q, hq, hmem⟩ := hrest.mem_names c hc
          rw [bne_iff_ne]
          rintro heq
          exact hp q hq (heq ▸ hmem)
        rw [hnone, Option.none_or, List.map_cons, List.lookup_cons_self, htakes.span_text]
      · rw [ih hps b hb, Option.some_or]

/-- Values that kinds without expressions of their own take are accepted. -/
theorem accepts (h : Captured ps vs cs) (hraw : ∀ p ∈ ps, p.kind.isRaw = false) :
    List.Forall₂ (fun p v => p.kind.Accepts v) ps vs := by
  induction h with
  | nil => exact .nil
  | cons hway htakes _ ih =>
      rw [List.forall_mem_cons] at hraw
      refine .cons ?_ (ih hraw.2)
      rw [Kind.way_body hraw.1] at hway
      obtain ⟨v, haccepts, htakes', -⟩ := hway
      have heq := htakes.rest_eq.symm.trans htakes'.rest_eq
      rwa [List.append_cancel_right heq]

end Captured

theorem Regex.Expr.waysInRow_char (t : Text) : Expr.waysInRow (t.map Expr.char) = Link.text t := by
  induction t with
  | nil => rw [List.map_nil, Expr.waysInRow, Link.text_nil]
  | cons c t ih =>
      rw [List.map_cons, Expr.waysInRow, ih, Expr.char, Expr.way, ← Link.text_append,
        List.singleton_append]

namespace Template

theorem ways_segment_literal {seg : Text} (h : Placeholder.ofSegment? seg = none) :
    Expr.waysInRow (segmentExprs seg) = Link.text seg := by
  rw [segmentExprs, h]
  exact Expr.waysInRow_char seg

theorem ways_segment_value {seg : Text} {p : Placeholder}
    (h : Placeholder.ofSegment? seg = some p) :
    Expr.waysInRow (segmentExprs seg) = p.kind.body.way.capture p.name := by
  rw [segmentExprs, h]
  dsimp only
  rw [Expr.waysInRow_singleton, Placeholder.expr, Expr.way]

theorem ways_row_cons (seg next : Text) (segs : List Text) :
    Expr.waysInRow (rowExprs (seg :: next :: segs)) = (Expr.waysInRow (segmentExprs seg)).comp
      ((Link.text ['/']).comp (Expr.waysInRow (rowExprs (next :: segs)))) := by
  rw [rowExprs, Expr.waysInRow_append, Expr.waysInRow, Expr.char, Expr.way]

/-- A way through one segment takes it filled. -/
theorem exists_fill_of_segment {seg : Text} {x y : Spot} {cs : Captures}
    (h : Expr.waysInRow (segmentExprs seg) x y cs) :
    ∃ vs part, Captured ([seg].filterMap Placeholder.ofSegment?) vs cs ∧
      (∀ segs args, fillSegments (seg :: segs) (vs ++ args) =
        (fillSegments segs args).map (part :: ·)) ∧ x.Takes part y := by
  cases hseg : Placeholder.ofSegment? seg with
  | none =>
      rw [ways_segment_literal hseg] at h
      obtain ⟨htakes, rfl⟩ := h
      rw [List.filterMap_cons_none hseg]
      exact ⟨[], seg, .nil, fun segs args => fillSegments_literal hseg segs args, htakes⟩
  | some p =>
      rw [ways_segment_value hseg] at h
      obtain ⟨ds, hway, rfl⟩ := h
      obtain ⟨v, htakes⟩ := Expr.way_forward _ hway
      rw [List.filterMap_cons_some hseg]
      exact ⟨[v], v, .cons hway htakes .nil, fun segs args => fillSegments_value hseg segs v args,
        htakes⟩

theorem exists_fill_of_row : ∀ {segs : List Text} {x y : Spot} {cs : Captures}, segs ≠ [] →
    Expr.waysInRow (rowExprs segs) x y cs →
    ∃ vs parts, Captured (segs.filterMap Placeholder.ofSegment?) vs cs ∧
      fillSegments segs vs = some parts ∧ parts.length = segs.length ∧
      x.Takes (Text.join '/' parts) y
  | [], _, _, _, hne, _ => absurd rfl hne
  | [seg], x, y, cs, _, h => by
      obtain ⟨vs, part, hcaptured, hfill, htakes⟩ := exists_fill_of_segment h
      have hparts := hfill [] []
      rw [List.append_nil] at hparts
      exact ⟨vs, [part], hcaptured, hparts, rfl, by rwa [Text.join_singleton]⟩
  | seg :: next :: segs, x, z, cs, _, h => by
      rw [ways_row_cons] at h
      obtain ⟨y, ds, _, hseg, ⟨y', _, es, ⟨hslash, rfl⟩, hrest, rfl⟩, rfl⟩ := h
      obtain ⟨vs, part, hcaptured, hfill, htakes⟩ := exists_fill_of_segment hseg
      obtain ⟨ws, parts, hcaptured', hfill', hlen, htakes'⟩ :=
        exists_fill_of_row (List.cons_ne_nil next segs) hrest
      have hne : parts ≠ [] := by
        rintro rfl
        cases hlen
      refine ⟨vs ++ ws, part :: parts, ?_, ?_, by simp [hlen], ?_⟩
      · rw [← List.singleton_append, List.filterMap_append, List.append_nil]
        exact hcaptured.append hcaptured'
      · rw [hfill, hfill']
        rfl
      · rw [Text.join_cons _ _ hne]
        exact htakes.append (hslash.append htakes')

/-- A way through the expressions of a template takes the template filled with values, and captures
them. -/
theorem exists_fill_of_way {t : Template} {x y : Spot} {cs : Captures}
    (h : Expr.waysInRow (exprs t) x y cs) :
    ∃ vs path, Captured (placeholders t) vs cs ∧ fill? t vs = some path ∧ x.Takes path y := by
  obtain ⟨vs, parts, hcaptured, hfill, -, htakes⟩ := exists_fill_of_row (segments_ne_nil t) h
  exact ⟨vs, Text.join '/' parts, hcaptured, by rw [fill?, hfill, Option.map_some], htakes⟩

/-! ## Accepted values -/

theorem exists_of_forall₂_append {α β : Type} {R : α → β → Prop} {l l' : List α} {m : List β}
    (h : List.Forall₂ R (l ++ l') m) :
    ∃ a b, List.Forall₂ R l a ∧ List.Forall₂ R l' b ∧ m = a ++ b := by
  induction l generalizing m with
  | nil => exact ⟨[], m, .nil, h, rfl⟩
  | cons x l ih =>
      obtain ⟨y, m, hxy, hm, rfl⟩ := List.forall₂_cons_left_iff.1 h
      obtain ⟨a, b, ha, hb, rfl⟩ := ih hm
      exact ⟨y :: a, b, .cons hxy ha, hb, rfl⟩

theorem exists_way_of_segment {seg : Text} {vs : List Text}
    (hraw : ∀ p ∈ [seg].filterMap Placeholder.ofSegment?, p.kind.isRaw = false)
    (haccepts : List.Forall₂ (fun p v => p.kind.Accepts v)
      ([seg].filterMap Placeholder.ofSegment?) vs) :
    ∃ part, (∀ segs args, fillSegments (seg :: segs) (vs ++ args) =
        (fillSegments segs args).map (part :: ·)) ∧
      ∀ x y, x.Takes part y → ∃ cs, Expr.waysInRow (segmentExprs seg) x y cs ∧
        Captured ([seg].filterMap Placeholder.ofSegment?) vs cs := by
  cases hseg : Placeholder.ofSegment? seg with
  | none =>
      rw [List.filterMap_cons_none hseg] at haccepts ⊢
      cases haccepts
      refine ⟨seg, fun segs args => fillSegments_literal hseg segs args, fun x y h => ⟨[], ?_, .nil⟩⟩
      rw [ways_segment_literal hseg]
      exact ⟨h, rfl⟩
  | some p =>
      rw [List.filterMap_cons_some hseg] at haccepts hraw ⊢
      obtain ⟨v, vs, hv, hvs, rfl⟩ := List.forall₂_cons_left_iff.1 haccepts
      cases hvs
      refine ⟨v, fun segs args => fillSegments_value hseg segs v args, fun x y h => ?_⟩
      have hway : p.kind.body.way x y [] := by
        rw [Kind.way_body (hraw p List.mem_cons_self)]
        exact ⟨v, hv, h, rfl⟩
      rw [ways_segment_value hseg]
      exact ⟨_, ⟨[], hway, rfl⟩, .cons hway h .nil⟩

theorem exists_way_of_row : ∀ {segs vs : List Text}, segs ≠ [] →
    (∀ p ∈ segs.filterMap Placeholder.ofSegment?, p.kind.isRaw = false) →
    List.Forall₂ (fun p v => p.kind.Accepts v) (segs.filterMap Placeholder.ofSegment?) vs →
    ∃ parts, fillSegments segs vs = some parts ∧ parts.length = segs.length ∧
      ∀ x y, x.Takes (Text.join '/' parts) y → ∃ cs, Expr.waysInRow (rowExprs segs) x y cs ∧
        Captured (segs.filterMap Placeholder.ofSegment?) vs cs
  | [], _, hne, _, _ => absurd rfl hne
  | [seg], vs, _, hraw, haccepts => by
      obtain ⟨part, hfill, hway⟩ := exists_way_of_segment hraw haccepts
      have hparts := hfill [] []
      rw [List.append_nil] at hparts
      exact ⟨[part], hparts, rfl, by rwa [Text.join_singleton]⟩
  | seg :: next :: segs, vs, _, hraw, haccepts => by
      rw [← List.singleton_append, List.filterMap_append, List.forall_mem_append] at hraw
      rw [← List.singleton_append, List.filterMap_append] at haccepts
      obtain ⟨vs, ws, hvs, hws, rfl⟩ := exists_of_forall₂_append haccepts
      obtain ⟨part, hfill, hway⟩ := exists_way_of_segment hraw.1 hvs
      obtain ⟨parts, hfill', hlen, hway'⟩ :=
        exists_way_of_row (List.cons_ne_nil next segs) hraw.2 hws
      have hne : parts ≠ [] := by
        rintro rfl
        cases hlen
      refine ⟨part :: parts, ?_, by simp [hlen], fun x z h => ?_⟩
      · rw [hfill, hfill']
        rfl
      · rw [Text.join_cons _ _ hne] at h
        obtain ⟨y, hpart, h⟩ := h.split
        obtain ⟨y', hslash, hrest⟩ := Spot.Takes.split (s := ['/']) h
        obtain ⟨ds, hds, hcaptured⟩ := hway x y hpart
        obtain ⟨es, hes, hcaptured'⟩ := hway' y' z hrest
        refine ⟨es ++ [] ++ ds, ?_, ?_⟩
        · rw [ways_row_cons]
          exact ⟨y, ds, es ++ [], hds, ⟨y', [], es, ⟨hslash, rfl⟩, hes, rfl⟩, rfl⟩
        · rw [← List.singleton_append, List.filterMap_append, List.append_nil]
          exact hcaptured.append hcaptured'

/-- A template filled with accepted values can be taken on a way through its expressions that captures them. -/
theorem exists_way_of_fill {t : Template} {vs : List Text}
    (hraw : ∀ p ∈ placeholders t, p.kind.isRaw = false)
    (haccepts : List.Forall₂ (fun p v => p.kind.Accepts v) (placeholders t) vs) :
    ∃ path, fill? t vs = some path ∧
      ∀ x y, x.Takes path y → ∃ cs, Expr.waysInRow (exprs t) x y cs ∧ Captured (placeholders t) vs cs := by
  obtain ⟨parts, hfill, -, hway⟩ := exists_way_of_row (segments_ne_nil t) hraw haccepts
  exact ⟨Text.join '/' parts, by rw [fill?, hfill, Option.map_some], hway⟩

end Template

end Signpost
