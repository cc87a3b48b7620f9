import Signpost.Proofs.Template.Filling

/-!
# Values can be read back

A path tells the values that a template was filled with, if at most one placeholder accepts slashes
(`Template.fill?_inj`).  Cutting the path at slashes gives the segments of the parts one after the other
(`Template.segments_join`), and all parts but those of the one placeholder are one segment each.
-/

namespace Signpost

theorem Text.not_mem_join {c d : Char} (hcd : d ≠ c) : ∀ {parts : List Text},
    (∀ part ∈ parts, d ∉ part) → d ∉ Text.join c parts
  | [], _ => by simp [Text.join]
  | [part], h => by
      rw [Text.join_singleton]
      exact h part List.mem_cons_self
  | part :: next :: parts, h => by
      rw [List.forall_mem_cons] at h
      rw [Text.join_cons _ _ (by simp), List.mem_append, List.mem_cons]
      rintro (hmem | heq | hmem)
      · exact h.1 hmem
      · exact hcd heq
      · exact Text.not_mem_join hcd h.2 hmem

theorem Kind.Run.not_mem {test : Char → Bool} {v : Text} {c : Char} (h : Kind.Run test v)
    (hc : test c = false) : c ∉ v := by
  intro hmem
  rw [h.2 c hmem] at hc
  cases hc

/-- Of the kinds without expressions of their own, only `any` accepts a slash. -/
theorem Kind.Accepts.slash_not_mem {k : Kind} {v : Text} (h : k.Accepts v) (hraw : k.isRaw = false)
    (hany : k ≠ .any) : '/' ∉ v := by
  cases k with
  | raw => cases hraw
  | any => exact absurd rfl hany
  | uuid =>
      obtain ⟨groups, -, hall, rfl⟩ := h
      refine Text.not_mem_join (by decide) fun g hg hmem => ?_
      exact absurd (hall g hg '/' hmem) (by decide)
  | _ => exact Kind.Run.not_mem h (by decide)

namespace Template

theorem segments_of_not_mem {t : Template} (h : '/' ∉ t) : segments t = [t] :=
  List.splitOn_eq_singleton h

theorem segments_join : ∀ {parts : List Text}, parts ≠ [] →
    segments (Text.join '/' parts) = parts.flatMap segments
  | [], h => absurd rfl h
  | [part], _ => by rw [Text.join_singleton, List.flatMap_singleton]
  | part :: next :: parts, _ => by
      rw [Text.join_cons _ _ (by simp), segments_append, segments_join (by simp)]
      rfl

theorem segments_inj {s t : Template} (h : segments s = segments t) : s = t := by
  rw [← join_segments s, h, join_segments]

/-- A row of parts without slashes is the segments of the parts joined. -/
theorem segments_join_of_not_mem {parts : List Text} (hne : parts ≠ [])
    (h : ∀ part ∈ parts, '/' ∉ part) : segments (Text.join '/' parts) = parts :=
  List.splitOn_intercalate _ h hne

/-- How many placeholders accept slashes. -/
def slashCount (ps : List Placeholder) : Nat := ps.countP (·.kind = .any)

/-- The values of placeholders, all of kinds without expressions of their own. -/
structure Values (ps : List Placeholder) (vs : List Text) : Prop where
  /-- The kinds have no expressions of their own. -/
  kinds : ∀ p ∈ ps, p.kind.isRaw = false
  /-- There is a value for each, and its kind accepts it. -/
  accepted : List.Forall₂ (fun p v => p.kind.Accepts v) ps vs

theorem Values.exists_cons {p : Placeholder} {ps : List Placeholder} {vs : List Text}
    (h : Values (p :: ps) vs) : ∃ v rest, vs = v :: rest ∧ p.kind.isRaw = false ∧
      p.kind.Accepts v ∧ Values ps rest := by
  obtain ⟨hp, hps⟩ := List.forall_mem_cons.1 h.kinds
  obtain ⟨v, rest, hv, hrest, rfl⟩ := List.forall₂_cons_left_iff.1 h.accepted
  exact ⟨v, rest, rfl, hp, hv, hps, hrest⟩

/-- Without a placeholder that accepts slashes, all values fill as many segments. -/
theorem length_segments_eq : ∀ {segs vs ws parts parts' : List Text},
    slashCount (segs.filterMap Placeholder.ofSegment?) = 0 →
    Values (segs.filterMap Placeholder.ofSegment?) vs →
    Values (segs.filterMap Placeholder.ofSegment?) ws →
    fillSegments segs vs = some parts → fillSegments segs ws = some parts' →
    (parts.flatMap segments).length = (parts'.flatMap segments).length
  | [], vs, ws, parts, parts', _, _, _, h, h' => by
      cases h
      cases h'
      rfl
  | seg :: segs, vs, ws, parts, parts', hany, hvs, hws, h, h' => by
      cases hseg : Placeholder.ofSegment? seg with
      | none =>
          rw [List.filterMap_cons_none hseg] at hany hvs hws
          rw [fillSegments_literal hseg] at h h'
          obtain ⟨rest, hrest, rfl⟩ := Option.map_eq_some_iff.1 h
          obtain ⟨rest', hrest', rfl⟩ := Option.map_eq_some_iff.1 h'
          simp only [List.flatMap_cons, List.length_append,
            length_segments_eq hany hvs hws hrest hrest']
      | some p =>
          rw [List.filterMap_cons_some hseg] at hany hvs hws
          obtain ⟨v, vs, rfl, hraw, hv, hvs⟩ := hvs.exists_cons
          obtain ⟨w, ws, rfl, -, hw, hws⟩ := hws.exists_cons
          rw [fillSegments_value hseg] at h h'
          obtain ⟨rest, hrest, rfl⟩ := Option.map_eq_some_iff.1 h
          obtain ⟨rest', hrest', rfl⟩ := Option.map_eq_some_iff.1 h'
          simp only [slashCount, List.countP_eq_zero, List.forall_mem_cons, decide_eq_true_eq] at hany
          have hcount : slashCount (segs.filterMap Placeholder.ofSegment?) = 0 := by
            simpa [slashCount, List.countP_eq_zero] using hany.2
          simp only [List.flatMap_cons, List.length_append,
            length_segments_eq hcount hvs hws hrest hrest',
            segments_of_not_mem (hv.slash_not_mem hraw hany.1),
            segments_of_not_mem (hw.slash_not_mem hraw hany.1), List.length_singleton]

theorem fillSegments_inj : ∀ {segs vs ws parts parts' : List Text},
    slashCount (segs.filterMap Placeholder.ofSegment?) ≤ 1 →
    Values (segs.filterMap Placeholder.ofSegment?) vs →
    Values (segs.filterMap Placeholder.ofSegment?) ws →
    fillSegments segs vs = some parts → fillSegments segs ws = some parts' →
    parts.flatMap segments = parts'.flatMap segments → vs = ws
  | [], vs, ws, parts, parts', _, hvs, hws, _, _, _ => by
      cases hvs.accepted
      cases hws.accepted
      rfl
  | seg :: segs, vs, ws, parts, parts', hany, hvs, hws, h, h', heq => by
      cases hseg : Placeholder.ofSegment? seg with
      | none =>
          rw [List.filterMap_cons_none hseg] at hany hvs hws
          rw [fillSegments_literal hseg] at h h'
          obtain ⟨rest, hrest, rfl⟩ := Option.map_eq_some_iff.1 h
          obtain ⟨rest', hrest', rfl⟩ := Option.map_eq_some_iff.1 h'
          rw [List.flatMap_cons, List.flatMap_cons] at heq
          exact fillSegments_inj hany hvs hws hrest hrest' (List.append_cancel_left heq)
      | some p =>
          rw [List.filterMap_cons_some hseg] at hany hvs hws
          obtain ⟨v, vs, rfl, hraw, hv, hvs⟩ := hvs.exists_cons
          obtain ⟨w, ws, rfl, -, hw, hws⟩ := hws.exists_cons
          rw [fillSegments_value hseg] at h h'
          obtain ⟨rest, hrest, rfl⟩ := Option.map_eq_some_iff.1 h
          obtain ⟨rest', hrest', rfl⟩ := Option.map_eq_some_iff.1 h'
          rw [List.flatMap_cons, List.flatMap_cons] at heq
          by_cases hp : p.kind = .any
          · -- No value further on has a slash, so the other parts are as many on both sides.
            have hcount : slashCount (segs.filterMap Placeholder.ofSegment?) = 0 := by
              rw [slashCount, List.countP_cons_of_pos (by simpa using hp)] at hany
              rw [slashCount]
              omega
            have hlen := length_segments_eq hcount hvs hws hrest hrest'
            obtain ⟨hfirst, hothers⟩ := List.append_inj' heq hlen
            rw [segments_inj hfirst,
              fillSegments_inj (by omega) hvs hws hrest hrest' hothers]
          · have hcount : slashCount (segs.filterMap Placeholder.ofSegment?) ≤ 1 := by
              rwa [slashCount, List.countP_cons_of_neg (by simpa using hp)] at hany
            rw [segments_of_not_mem (hv.slash_not_mem hraw hp),
              segments_of_not_mem (hw.slash_not_mem hraw hp)] at heq
            obtain ⟨hfirst, hothers⟩ := List.cons.inj heq
            rw [hfirst, fillSegments_inj hcount hvs hws hrest hrest' hothers]

theorem fillSegments_ne_nil {segs vs parts : List Text} (hne : segs ≠ [])
    (h : fillSegments segs vs = some parts) : parts ≠ [] := by
  rintro rfl
  cases segs with
  | nil => exact hne rfl
  | cons seg segs =>
      unfold fillSegments at h
      split at h
      · obtain ⟨rest, -, hcons⟩ := Option.map_eq_some_iff.1 h
        cases hcons
      · obtain ⟨rest, -, hcons⟩ := Option.map_eq_some_iff.1 h
        cases hcons
      · cases h

/-- A path tells the values that fill a template, if at most one placeholder accepts slashes. -/
theorem fill?_inj {t : Template} {vs ws : List Text} {path : Text}
    (hany : slashCount (placeholders t) ≤ 1) (hvs : Values (placeholders t) vs)
    (hws : Values (placeholders t) ws) (h : fill? t vs = some path) (h' : fill? t ws = some path) :
    vs = ws := by
  obtain ⟨parts, hparts, rfl⟩ := Option.map_eq_some_iff.1 h
  obtain ⟨parts', hparts', heq⟩ := Option.map_eq_some_iff.1 h'
  have hne := fillSegments_ne_nil (segments_ne_nil t) hparts
  have hne' := fillSegments_ne_nil (segments_ne_nil t) hparts'
  refine fillSegments_inj hany hvs hws hparts hparts' ?_
  rw [← segments_join hne, ← segments_join hne', heq]

end Template

end Signpost
