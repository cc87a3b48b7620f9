import Mathlib.Data.List.DropRight
import Signpost.Proofs.Template.Slash

/-!
# Joining

Joining trims the slashes where two templates meet and sets one between them (`Template.join_eq`).  The slashes
of a template that lies between two others are trimmed on both sides, in whatever order it is joined to them, so
joining is associative (`Template.join_assoc`) and neighbours can be joined beforehand
(`Template.Grouping.foldl_join`).  One slash taken off the end of a template never shows in what is joined to it
(`Template.join_trimSlash`).  Slashes make no placeholders, so joining joins the lists of placeholders
(`Template.placeholders_join`).
-/

namespace Signpost

namespace Text

variable {c : Char}

/-- Trimming at the end stops at the second of two texts, unless nothing is left of it. -/
theorem trimEnd_append (c : Char) (s t : Text) :
    trimEnd c (s ++ t) = if trimEnd c t = [] then trimEnd c s else s ++ trimEnd c t := by
  unfold trimEnd
  rw [List.reverse_append, List.dropWhile_append]
  by_cases h : t.reverse.dropWhile (· == c) = []
  · simp [h]
  · simp [h]

/-- Trimming at the start stops at the first of two texts, unless nothing is left of it. -/
theorem trimStart_append (c : Char) (s t : Text) :
    trimStart c (s ++ t) = if trimStart c s = [] then trimStart c t else trimStart c s ++ t := by
  unfold trimStart
  rw [List.dropWhile_append]
  simp only [List.isEmpty_iff]

theorem trimStart_cons (c : Char) (t : Text) : trimStart c (c :: t) = trimStart c t :=
  List.dropWhile_cons_of_pos (beq_self_eq_true c)

theorem trimEnd_singleton (c : Char) : trimEnd c [c] = [] := by
  simp [trimEnd]

theorem trimEnd_append_singleton (c : Char) (t : Text) : trimEnd c (t ++ [c]) = trimEnd c t := by
  rw [trimEnd_append, if_pos (trimEnd_singleton c)]

/-- Both ends of a text are trimmed in either order. -/
theorem trimStart_trimEnd (c : Char) (t : Text) : trimStart c (trimEnd c t) = trimEnd c (trimStart c t) := by
  induction t with
  | nil => rfl
  | cons d t ih =>
      -- The first character goes at the end only if nothing is left behind it.
      have hend : trimEnd c (d :: t) = if trimEnd c t = [] then trimEnd c [d] else d :: trimEnd c t :=
        trimEnd_append c [d] t
      by_cases hd : d = c
      · subst hd
        rw [trimStart_cons, ← ih, hend, trimEnd_singleton]
        split
        · next hnil => rw [hnil]
        · exact trimStart_cons d _
      · have hstart : ∀ s, trimStart c (d :: s) = d :: s := fun s =>
          List.dropWhile_cons_of_neg (by simpa using hd)
        have hone : trimEnd c [d] = [d] := by simp [trimEnd, hd]
        rw [hstart, hend, hone]
        split <;> exact hstart _

theorem trimEnd_trimEnd (c : Char) (t : Text) : trimEnd c (trimEnd c t) = trimEnd c t :=
  List.rdropWhile_idempotent _ _

theorem trimStart_trimStart (c : Char) (t : Text) : trimStart c (trimStart c t) = trimStart c t :=
  List.dropWhile_idempotent _ _

/-- What is trimmed off the end, and that nothing is left to be trimmed. -/
theorem exists_replicate_trimEnd (c : Char) (t : Text) :
    (∃ n, t = trimEnd c t ++ List.replicate n c) ∧ (trimEnd c t).getLast? ≠ some c := by
  refine ⟨⟨(t.rtakeWhile (· == c)).length, ?_⟩, fun hlast => ?_⟩
  · have hall : t.rtakeWhile (· == c) = List.replicate (t.rtakeWhile (· == c)).length c :=
      List.eq_replicate_iff.2 ⟨rfl, fun d hd => beq_iff_eq.1 (List.mem_rtakeWhile_imp (p := (· == c)) hd)⟩
    rw [← hall]
    exact List.rdropWhile_append_rtakeWhile.symm
  · obtain ⟨s, hs⟩ := List.getLast?_eq_some_iff.1 hlast
    have hagain := trimEnd_trimEnd c t
    rw [hs, trimEnd_append_singleton] at hagain
    have hle : (trimEnd c s).length ≤ s.length := (List.rdropWhile_prefix (· == c) s).length_le
    rw [hagain, List.length_append] at hle
    exact absurd hle (by simp)

/-- What is trimmed off the start, and that nothing is left to be trimmed. -/
theorem exists_replicate_trimStart (c : Char) (t : Text) :
    (∃ n, t = List.replicate n c ++ trimStart c t) ∧ (trimStart c t).head? ≠ some c := by
  refine ⟨⟨(t.takeWhile (· == c)).length, ?_⟩, fun hhead => ?_⟩
  · have hall : t.takeWhile (· == c) = List.replicate (t.takeWhile (· == c)).length c :=
      List.eq_replicate_iff.2 ⟨rfl, fun d hd => beq_iff_eq.1 (List.mem_takeWhile_imp (p := (· == c)) hd)⟩
    rw [← hall]
    exact List.takeWhile_append_dropWhile.symm
  · have hnot := List.head?_dropWhile_not (· == c) t
    unfold trimStart at hhead
    rw [hhead] at hnot
    simp at hnot

end Text

namespace Template

/-! ## One slash between -/

/-- Two templates are joined without the slashes where they meet, with one slash between. -/
theorem join_eq (p s : Template) : ∃ p' s' i j, p = p' ++ List.replicate i '/' ∧
    s = List.replicate j '/' ++ s' ∧ join p s = p' ++ '/' :: s' ∧ p'.getLast? ≠ some '/' ∧
    s'.head? ≠ some '/' := by
  obtain ⟨⟨i, hi⟩, hlast⟩ := Text.exists_replicate_trimEnd '/' p
  obtain ⟨⟨j, hj⟩, hhead⟩ := Text.exists_replicate_trimStart '/' s
  exact ⟨_, _, i, j, hi, hj, rfl, hlast, hhead⟩

theorem trimEnd_join (p s : Template) : Text.trimEnd '/' (join p s) =
    if Text.trimEnd '/' (Text.trimStart '/' s) = [] then Text.trimEnd '/' p
    else Text.trimEnd '/' p ++ '/' :: Text.trimEnd '/' (Text.trimStart '/' s) := by
  rw [join, List.append_cons, Text.trimEnd_append, Text.trimEnd_append_singleton, Text.trimEnd_trimEnd,
    ← List.append_cons]

theorem trimStart_join (p s : Template) : Text.trimStart '/' (join p s) =
    if Text.trimStart '/' (Text.trimEnd '/' p) = [] then Text.trimStart '/' s
    else Text.trimStart '/' (Text.trimEnd '/' p) ++ '/' :: Text.trimStart '/' s := by
  rw [join, Text.trimStart_append, Text.trimStart_cons, Text.trimStart_trimStart]

/-- Joining is associative.  What is left of the template in the middle is trimmed on both sides; if that is
nothing, the slashes around it are one. -/
theorem join_assoc (a b c : Template) : join (join a b) c = join a (join b c) := by
  rw [join, trimEnd_join, join.eq_def a (join b c), trimStart_join, Text.trimStart_trimEnd]
  split
  · rfl
  · rw [List.append_assoc, List.cons_append]

/-- One slash less at the end of a template does not show in what is joined to it. -/
theorem join_trimSlash (enabled : Bool) (p s : Template) : join (trimSlash enabled p) s = join p s := by
  by_cases h : trimSlash enabled p = p
  · rw [h]
  · obtain ⟨rfl, b, hb, rfl⟩ := trimSlash_ne_iff.1 h
    rw [trimSlash_append_slash hb, join, join, Text.trimEnd_append_singleton]

/-! ## Many templates -/

/-- Some templates joined, in their order. -/
def joinAll : List Template → Template
  | [] => []
  | t :: ts => ts.foldl join t

theorem foldl_join_join (a t : Template) (ts : List Template) :
    ts.foldl join (join a t) = join a (ts.foldl join t) := by
  induction ts generalizing t with
  | nil => rfl
  | cons u ts ih => rw [List.foldl_cons, List.foldl_cons, join_assoc, ih]

/-- Templates can be joined in groups beforehand. -/
theorem foldl_join_flatten (root : Template) : ∀ groups : List (List Template), (∀ g ∈ groups, g ≠ []) →
    groups.flatten.foldl join root = (groups.map joinAll).foldl join root
  | [], _ => rfl
  | [] :: _, h => absurd rfl (h [] List.mem_cons_self)
  | (t :: ts) :: groups, h => by
      rw [List.flatten_cons, List.foldl_append, List.foldl_cons, foldl_join_join, List.map_cons,
        List.foldl_cons, joinAll]
      exact foldl_join_flatten _ groups fun g hg => h g (List.mem_cons_of_mem _ hg)

/-- The template `root` and the parts `suffixes` are made of the template `start` and `parts` by joining
neighbours beforehand: the first few to the start, the others in groups. -/
def Grouping (start : Template) (parts : List Template) (root : Template) (suffixes : List Template) : Prop :=
  ∃ (first : List Template) (groups : List (List Template)), parts = first ++ groups.flatten ∧
    (∀ g ∈ groups, g ≠ []) ∧ root = first.foldl join start ∧ suffixes = groups.map joinAll

/-- Grouping does not change what all parts are joined to. -/
theorem Grouping.foldl_join {start root : Template} {parts suffixes : List Template}
    (h : Grouping start parts root suffixes) : suffixes.foldl join root = parts.foldl join start := by
  obtain ⟨first, groups, rfl, hne, rfl, rfl⟩ := h
  rw [List.foldl_append, foldl_join_flatten _ groups hne]

/-! ## Placeholders -/

theorem placeholders_append (s t : Template) :
    placeholders (s ++ '/' :: t) = placeholders s ++ placeholders t := by
  rw [placeholders, segments_append, List.filterMap_append]
  rfl

theorem placeholders_replicate (n : Nat) : placeholders (List.replicate n '/') = [] := by
  induction n with
  | zero => rfl
  | succ n ih => exact (placeholders_append [] _).trans ih

theorem placeholders_trimEnd (t : Template) : placeholders (Text.trimEnd '/' t) = placeholders t := by
  obtain ⟨⟨n, hn⟩, -⟩ := Text.exists_replicate_trimEnd '/' t
  cases n with
  | zero => rw [List.replicate_zero, List.append_nil] at hn; rw [← hn]
  | succ n =>
      conv_rhs => rw [hn, List.replicate_succ, placeholders_append, placeholders_replicate, List.append_nil]

theorem placeholders_trimStart (t : Template) : placeholders (Text.trimStart '/' t) = placeholders t := by
  induction t with
  | nil => rfl
  | cons c t ih =>
      by_cases hc : c = '/'
      · subst hc
        rw [Text.trimStart_cons, ih]
        exact (placeholders_append [] t).symm
      · rw [Text.trimStart, List.dropWhile_cons_of_neg (by simpa using hc)]

theorem placeholders_join (p s : Template) : placeholders (join p s) = placeholders p ++ placeholders s := by
  rw [join, placeholders_append, placeholders_trimEnd, placeholders_trimStart]

theorem placeholders_trimSlash (enabled : Bool) (t : Template) :
    placeholders (trimSlash enabled t) = placeholders t := by
  by_cases h : trimSlash enabled t = t
  · rw [h]
  · obtain ⟨rfl, b, hb, rfl⟩ := trimSlash_ne_iff.1 h
    rw [trimSlash_append_slash hb, placeholders_append, placeholders.eq_def []]
    exact (List.append_nil _).symm

/-- The names of the placeholders of templates joined. -/
theorem params_foldl_join (root : Template) (ts : List Template) :
    params (ts.foldl join root) = params root ++ ts.flatMap params := by
  induction ts generalizing root with
  | nil => rw [List.foldl_nil, List.flatMap_nil, List.append_nil]
  | cons t ts ih =>
      rw [List.foldl_cons, ih, List.flatMap_cons, params, placeholders_join, List.map_append,
        List.append_assoc]
      rfl

end Template

end Signpost
