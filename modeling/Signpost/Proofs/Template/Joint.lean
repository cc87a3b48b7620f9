import Signpost.Proofs.Template.Join

/-!
# Filling across a joint

Joining looks at the slashes where two templates meet, and trimming at one slash at the end.  Values that are not
empty and hold no slash change none of these, so it does not matter whether templates are joined and trimmed
before they are filled or after (`Template.fill?_join`, `Template.fill?_trimSlash`).  The values of two templates
joined are those of the first and then those of the second.
-/

namespace Signpost

namespace Text

variable {c : Char} {t : Text}

theorem trimEnd_eq_self (h : t.getLast? ≠ some c) : trimEnd c t = t := by
  obtain ⟨⟨n, hn⟩, -⟩ := exists_replicate_trimEnd c t
  cases n with
  | zero => rw [List.replicate_zero, List.append_nil] at hn; exact hn.symm
  | succ n =>
      refine absurd ?_ h
      rw [hn, List.replicate_succ', ← List.append_assoc, List.getLast?_concat]

theorem trimStart_eq_self (h : t.head? ≠ some c) : trimStart c t = t := by
  obtain ⟨⟨n, hn⟩, -⟩ := exists_replicate_trimStart c t
  cases n with
  | zero => rw [List.replicate_zero, List.nil_append] at hn; exact hn.symm
  | succ n =>
      refine absurd ?_ h
      rw [hn, List.replicate_succ, List.cons_append, List.head?_cons]

end Text

namespace Template

/-! ## A slash between -/

variable {s t : Template} {args rest : List Text} {url more : Text}

/-- Templates with a slash between are filled side by side. -/
theorem fill?_append (hlen : args.length = (params t).length) (h : fill? t args = some url)
    (hmore : fill? s rest = some more) :
    fill? (t ++ '/' :: s) (args ++ rest) = some (url ++ '/' :: more) := by
  obtain ⟨parts, hparts, rfl⟩ := Option.map_eq_some_iff.1 h
  obtain ⟨parts', hparts', rfl⟩ := Option.map_eq_some_iff.1 hmore
  rw [params, List.length_map, placeholders] at hlen
  have hfirst : fillSegments (segments t) (args ++ rest) = some parts := by
    rw [← fillSegments_take, ← hlen, List.take_left, hparts]
  rw [fill?, segments_append, fillSegments_append, hfirst, Option.bind_some, ← hlen, List.drop_left, hparts',
    Option.map_some, Option.map_some, Text.join_append '/' (fillSegments_ne_nil (segments_ne_nil t) hparts)
      (fillSegments_ne_nil (segments_ne_nil s) hparts')]

theorem params_append_slash (t : Template) : params (t ++ ['/']) = params t := by
  have h := placeholders_append t []
  rw [placeholders.eq_def []] at h
  exact congrArg (List.map Placeholder.name) (h.trans (List.append_nil _))

theorem params_cons_slash (t : Template) : params ('/' :: t) = params t :=
  congrArg (List.map Placeholder.name) (placeholders_append [] t)

/-- A slash at the end of a template is one at the end of its paths. -/
theorem exists_of_fill?_append_slash (hlen : args.length = (params t).length)
    (h : fill? (t ++ ['/']) args = some url) : ∃ u, url = u ++ ['/'] ∧ fill? t args = some u := by
  obtain ⟨u, hu⟩ := exists_fill? (Nat.le_of_eq hlen.symm)
  have hempty : fill? [] [] = some [] := rfl
  have hslash := fill?_append hlen hu hempty
  rw [List.append_nil] at hslash
  exact ⟨u, Option.some.inj (h.symm.trans hslash), hu⟩

/-- A slash at the start of a template is one at the start of its paths. -/
theorem exists_of_fill?_cons_slash (hlen : args.length = (params t).length)
    (h : fill? ('/' :: t) args = some url) : ∃ u, url = '/' :: u ∧ fill? t args = some u := by
  obtain ⟨u, hu⟩ := exists_fill? (Nat.le_of_eq hlen.symm)
  have hempty : fill? [] [] = some [] := rfl
  have hslash := fill?_append rfl hempty hu
  exact ⟨u, Option.some.inj (h.symm.trans hslash), hu⟩

/-! ## Trimming and joining -/

section Plain

variable (hargs : ∀ v ∈ args, v ≠ [] ∧ '/' ∉ v)
include hargs

/-- A template can be filled before the slashes at its end are trimmed. -/
theorem fill?_trimEnd (hlen : args.length = (params t).length) (h : fill? t args = some url) :
    fill? (Text.trimEnd '/' t) args = some (Text.trimEnd '/' url) := by
  induction t using List.reverseRecOn generalizing url with
  | nil =>
      cases h
      rfl
  | append_singleton t c ih =>
      by_cases hc : c = '/'
      · subst hc
        rw [params_append_slash] at hlen
        obtain ⟨u, rfl, hu⟩ := exists_of_fill?_append_slash hlen h
        rw [Text.trimEnd_append_singleton, Text.trimEnd_append_singleton]
        exact ih hlen hu
      · have hlast : (t ++ [c]).getLast? ≠ some '/' := by simpa using hc
        have hlast' : url.getLast? ≠ some '/' := by
          intro hslash
          obtain ⟨u, rfl⟩ := List.getLast?_eq_some_iff.1 hslash
          obtain ⟨b, hb, -⟩ := (alike_of_fill? hargs h).symm.exists_append_slash
          exact hlast (by rw [hb, List.getLast?_concat])
        rw [Text.trimEnd_eq_self hlast, Text.trimEnd_eq_self hlast', h]

/-- A template can be filled before the slashes at its start are trimmed. -/
theorem fill?_trimStart (hlen : args.length = (params t).length) (h : fill? t args = some url) :
    fill? (Text.trimStart '/' t) args = some (Text.trimStart '/' url) := by
  induction t generalizing url with
  | nil =>
      cases h
      rfl
  | cons c t ih =>
      by_cases hc : c = '/'
      · subst hc
        rw [params_cons_slash] at hlen
        obtain ⟨u, rfl, hu⟩ := exists_of_fill?_cons_slash hlen h
        rw [Text.trimStart_cons, Text.trimStart_cons]
        exact ih hlen hu
      · have hhead : (c :: t).head? ≠ some '/' := by simpa using hc
        have hhead' : url.head? ≠ some '/' := by
          intro hslash
          obtain ⟨u, rfl⟩ := List.head?_eq_some_iff.1 hslash
          obtain ⟨b, hb, -⟩ := (alike_of_fill? hargs h).symm.exists_cons_slash
          exact hhead (by rw [hb, List.head?_cons])
        rw [Text.trimStart_eq_self hhead, Text.trimStart_eq_self hhead', h]

/-- A template can be filled before it is trimmed. -/
theorem fill?_trimSlash (hlen : args.length = (params t).length) (h : fill? t args = some url)
    (enabled : Bool) : fill? (trimSlash enabled t) args = some (trimSlash enabled url) := by
  by_cases htrim : trimSlash enabled t = t
  · rw [htrim, ((alike_of_fill? hargs h).trimSlash_eq_iff enabled).1 htrim, h]
  · obtain ⟨rfl, b, hb, rfl⟩ := trimSlash_ne_iff.1 htrim
    rw [params_append_slash] at hlen
    obtain ⟨u, rfl, hu⟩ := exists_of_fill?_append_slash hlen h
    have hu_ne : u ≠ [] := by
      rintro rfl
      exact hb (alike_of_fill? hargs hu).symm.eq_nil
    rw [trimSlash_append_slash hb, trimSlash_append_slash hu_ne, hu]

end Plain

/-- Two templates can be filled before they are joined. -/
theorem fill?_join (hargs : ∀ v ∈ args, v ≠ [] ∧ '/' ∉ v) (hrest : ∀ v ∈ rest, v ≠ [] ∧ '/' ∉ v)
    (hlen : args.length = (params t).length) (hlen' : rest.length = (params s).length)
    (h : fill? t args = some url) (hmore : fill? s rest = some more) :
    fill? (join t s) (args ++ rest) = some (join url more) := by
  have hcount : args.length = (params (Text.trimEnd '/' t)).length := by
    rw [hlen, params, params, placeholders_trimEnd]
  exact fill?_append hcount (fill?_trimEnd hargs hlen h) (fill?_trimStart hrest hlen' hmore)

end Template

end Signpost
