import Signpost.Proofs.Template.Substitution

/-!
# Slashes at the end

Trimming takes one slash off the end of a path that is more than that slash.

*Alike.*  Two texts are alike if they have as many segments and the same ones are empty (`Template.Alike`).  So
a slash at an end of the one is a slash at this end of the other, and what is left without it is alike too.
Values that are not empty and hold no slash fill a template to a path that is alike (`Template.alike_of_fill?`),
so a filled template is as trimmed as the template (`Template.trimSlash_fill`).  A template that is not trimmed
does not match what is left of its own paths, since that has a segment less
(`Template.fill?_ne_of_append_slash`).
-/

namespace Signpost

namespace Template

theorem trimSlash_append_slash {b : Text} (hb : b ≠ []) : trimSlash true (b ++ ['/']) = b := by
  have hlen : 1 < (b ++ ['/']).length := by
    have hpos := List.length_pos_iff.2 hb
    rw [List.length_append, List.length_singleton]
    omega
  rw [trimSlash, decide_eq_true hlen, Text.before?_eq_some.2 rfl]
  rfl

/-- A path that trimming changes has something before a slash at its end. -/
theorem trimSlash_ne_iff {enabled : Bool} {path : Text} : trimSlash enabled path ≠ path ↔
    enabled = true ∧ ∃ b, b ≠ [] ∧ path = b ++ ['/'] := by
  constructor
  · intro h
    unfold trimSlash at h
    split at h
    · next hcond =>
        rw [Bool.and_eq_true, decide_eq_true_eq] at hcond
        cases hbefore : Text.before? ['/'] path with
        | none =>
            rw [hbefore] at h
            exact absurd rfl h
        | some b =>
            have hpath := Text.before?_eq_some.1 hbefore
            refine ⟨hcond.1, b, ?_, hpath⟩
            rintro rfl
            rw [hpath] at hcond
            exact absurd hcond.2 (by simp)
    · exact absurd rfl h
  · rintro ⟨rfl, b, hb, rfl⟩ heq
    rw [trimSlash_append_slash hb] at heq
    simpa using congrArg List.length heq

theorem head?_trimSlash (enabled : Bool) (path : Text) : (trimSlash enabled path).head? = path.head? := by
  by_cases h : trimSlash enabled path = path
  · rw [h]
  · obtain ⟨rfl, b, hb, rfl⟩ := trimSlash_ne_iff.1 h
    rw [trimSlash_append_slash hb, List.head?_append_of_ne_nil _ hb]

/-- Trimming takes one character at most. -/
theorem length_trimSlash (enabled : Bool) (path : Text) :
    (trimSlash enabled path).length ≤ path.length ∧ path.length ≤ (trimSlash enabled path).length + 1 := by
  by_cases h : trimSlash enabled path = path
  · rw [h]
    exact ⟨Nat.le_refl _, Nat.le_succ _⟩
  · obtain ⟨rfl, b, hb, rfl⟩ := trimSlash_ne_iff.1 h
    rw [trimSlash_append_slash hb, List.length_append]
    exact ⟨Nat.le_add_right _ _, Nat.le_refl _⟩

/-! ## Texts alike at their slashes -/

/-- As many segments, of which the same ones are empty. -/
def Alike (s t : Text) : Prop :=
  List.Forall₂ (fun p q => p = [] ↔ q = []) (segments s) (segments t)

namespace Alike

variable {b s t : Text}

theorem symm (h : Alike s t) : Alike t s := (h.imp fun _ _ hpq => hpq.symm).flip

theorem length_eq (h : Alike s t) : (segments s).length = (segments t).length := List.Forall₂.length_eq h

theorem eq_nil (h : Alike [] t) : t = [] := by
  obtain ⟨q, qs, hq, hqs, ht⟩ := List.forall₂_cons_left_iff.1 h
  cases hqs
  cases hq.1 rfl
  rw [← join_segments t, ht]
  rfl

/-- A text alike to one with a slash at its start has one there. -/
theorem exists_cons_slash (h : Alike ('/' :: b) t) : ∃ c, t = '/' :: c ∧ Alike b c := by
  have hcut : segments ('/' :: b) = [] :: segments b := segments_append [] b
  rw [Alike, hcut] at h
  obtain ⟨q, qs, hq, hqs, ht⟩ := List.forall₂_cons_left_iff.1 h
  cases hq.1 rfl
  have hne : qs ≠ [] := by
    rintro rfl
    exact segments_ne_nil b (List.forall₂_nil_right_iff.1 hqs)
  have hslash : ∀ part ∈ qs, '/' ∉ part := fun part hpart =>
    slash_not_mem_segments t part (ht ▸ List.mem_cons_of_mem _ hpart)
  refine ⟨Text.join '/' qs, ?_, ?_⟩
  · rw [← join_segments t, ht, Text.join_cons _ _ hne, List.nil_append]
  · rwa [Alike, segments_join_of_not_mem hne hslash]

/-- A text alike to one with a slash at its end has one there. -/
theorem exists_append_slash (h : Alike (b ++ ['/']) t) : ∃ c, t = c ++ ['/'] ∧ Alike b c := by
  have hcut : segments (b ++ ['/']) = segments b ++ [[]] := segments_append b []
  rw [Alike, hcut] at h
  obtain ⟨init, last, hinit, hlast, ht⟩ := exists_of_forall₂_append h
  obtain ⟨q, qs, hq, hqs, rfl⟩ := List.forall₂_cons_left_iff.1 hlast
  cases hqs
  cases hq.1 rfl
  have hne : init ≠ [] := by
    rintro rfl
    exact segments_ne_nil b (List.forall₂_nil_right_iff.1 hinit)
  have hslash : ∀ part ∈ init, '/' ∉ part := fun part hpart =>
    slash_not_mem_segments t part (ht ▸ List.mem_append_left _ hpart)
  refine ⟨Text.join '/' init, ?_, ?_⟩
  · rw [← join_segments t, ht, Text.join_append '/' hne (by simp)]
    rfl
  · rwa [Alike, segments_join_of_not_mem hne hslash]

/-- Of two texts that are alike trimming changes both or neither. -/
theorem trimSlash_ne (h : Alike s t) {enabled : Bool} (hs : trimSlash enabled s ≠ s) :
    trimSlash enabled t ≠ t := by
  obtain ⟨rfl, b, hb, rfl⟩ := trimSlash_ne_iff.1 hs
  obtain ⟨c, rfl, hbc⟩ := h.exists_append_slash
  refine trimSlash_ne_iff.2 ⟨rfl, c, ?_, rfl⟩
  rintro rfl
  exact hb hbc.symm.eq_nil

theorem trimSlash_eq_iff (h : Alike s t) (enabled : Bool) :
    trimSlash enabled s = s ↔ trimSlash enabled t = t :=
  not_iff_not.1 ⟨h.trimSlash_ne, h.symm.trimSlash_ne⟩

end Alike

/-! ## Filled templates -/

end Template

/-- No kind without an expression of its own accepts the empty text. -/
theorem Kind.Accepts.ne_nil {k : Kind} {v : Text} (h : k.Accepts v) (hraw : k.isRaw = false) :
    v ≠ [] := by
  cases k with
  | raw => cases hraw
  | uuid =>
      obtain ⟨groups, hlen, -, rfl⟩ := h
      obtain ⟨g, groups, rfl, hg, hgroups⟩ := List.map_eq_cons_iff.1 hlen
      rw [Text.join_cons _ _ (by rintro rfl; cases hgroups)]
      simp
  | _ => exact h.1

namespace Template

theorem Values.plain {ps : List Placeholder} {vs : List Text} (hvs : Values ps vs)
    (hany : ∀ p ∈ ps, p.kind ≠ .any) : ∀ v ∈ vs, v ≠ [] ∧ '/' ∉ v := by
  obtain ⟨hraw, haccepted⟩ := hvs
  induction haccepted with
  | nil => simp
  | cons hv _ ih =>
      rw [List.forall_mem_cons] at hany hraw ⊢
      exact ⟨⟨hv.ne_nil hraw.1, hv.slash_not_mem hraw.1 hany.1⟩, ih hany.2 hraw.2⟩

theorem forall₂_of_fillSegments {segs vs parts : List Text} (hvs : ∀ v ∈ vs, v ≠ [])
    (h : fillSegments segs vs = some parts) :
    List.Forall₂ (fun p q => p = [] ↔ q = []) segs parts := by
  rw [fills_iff] at h
  induction h with
  | nil => exact .nil
  | literal _ _ ih => exact .cons Iff.rfl (ih hvs)
  | value hseg _ ih =>
      rw [List.forall_mem_cons] at hvs
      refine .cons (iff_of_false ?_ hvs.1) (ih hvs.2)
      rintro rfl
      cases hseg

variable {t : Template} {vs : List Text} {url : Text}

/-- Values that are not empty and hold no slash fill a template to a path that is alike. -/
theorem alike_of_fill? (hvs : ∀ v ∈ vs, v ≠ [] ∧ '/' ∉ v) (h : fill? t vs = some url) : Alike t url :=
  forall₂_of_fillSegments (fun v hv => (hvs v hv).1)
    (fillSegments_of_fill? (fun v hv => (hvs v (List.mem_of_mem_take hv)).2) h)

/-- A filled template is as trimmed as the template. -/
theorem trimSlash_fill (hany : ∀ p ∈ placeholders t, p.kind ≠ .any)
    (hvs : Values (placeholders t) vs) (h : fill? t vs = some url) (enabled : Bool) :
    trimSlash enabled url = url ↔ trimSlash enabled t = t :=
  (alike_of_fill? (hvs.plain hany) h).symm.trimSlash_eq_iff enabled

/-- What is left of a filled template without a slash at its end is not the template filled. -/
theorem fill?_ne_of_append_slash {ws : List Text} {b : Text}
    (hany : ∀ p ∈ placeholders t, p.kind ≠ .any) (hvs : Values (placeholders t) vs)
    (hws : Values (placeholders t) ws) (h : fill? t vs = some (b ++ ['/'])) : fill? t ws ≠ some b := by
  intro h'
  have halike := alike_of_fill? (hvs.plain hany) h
  have halike' := alike_of_fill? (hws.plain hany) h'
  have hlen := halike.symm.length_eq.trans halike'.length_eq
  rw [segments_append, List.length_append] at hlen
  exact absurd hlen (by simp [segments_ne_nil])

end Template

end Signpost
