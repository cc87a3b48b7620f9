import Mathlib.Data.List.Basic
import Signpost.Template

/-!
# Segments

A template is its segments with a slash between each two, and so is its expression (`Template.regex_eq`).

*Two ways of cutting.*  A template is cut at each slash, or with the outer slashes set apart.  The second way loses
nothing (`Template.split_text`) and gives the same segments, once each outer slash has an empty segment on its
outer side again (`Template.split_segments`).

*Filling in.*  `fillSegments` takes values in order, a segment after the other (`Template.Fills`), and
`fillSegmentsWith` takes them by name.  Both fill two rows one after the other (`fillSegments_append`).  If every
name is bound to the value that is its turn, both give the same (`fillSegmentsWith_of_zip`).
-/

namespace Signpost

namespace Text

theorem join_cons (c : Char) (s : Text) {parts : List Text} (h : parts ≠ []) :
    join c (s :: parts) = s ++ c :: join c parts := by
  rw [join, join, List.intercalate_cons_of_ne_nil h, List.append_assoc]
  rfl

theorem join_singleton (c : Char) (s : Text) : join c [s] = s := List.intercalate_singleton

theorem join_append (c : Char) {parts more : List Text} (h : parts ≠ []) (hmore : more ≠ []) :
    join c (parts ++ more) = join c parts ++ c :: join c more := by
  induction parts with
  | nil => exact absurd rfl h
  | cons s parts ih =>
      rw [List.cons_append]
      cases parts with
      | nil => rw [List.nil_append, join_cons c s hmore, join_singleton]
      | cons u parts =>
          rw [join_cons c s (by simp), ih (by simp), join_cons c s (by simp), List.append_assoc,
            List.cons_append]

/-- An empty part at the start is a separator at the start. -/
theorem join_empty_append (c : Char) (first : Bool) {parts : List Text} (h : parts ≠ []) :
    join c ((if first then [[]] else []) ++ parts) = (if first then [c] else []) ++ join c parts := by
  cases first with
  | false => rfl
  | true => exact join_cons c [] h

/-- An empty part at the end is a separator at the end. -/
theorem join_append_empty (c : Char) (last : Bool) {parts : List Text} (h : parts ≠ []) :
    join c (parts ++ if last then [[]] else []) = join c parts ++ if last then [c] else [] := by
  cases last with
  | false => simp
  | true =>
      rw [if_pos rfl, if_pos rfl, join_append c h (by simp)]
      rfl

theorem after?_eq_some {p t rest : Text} : after? p t = some rest ↔ t = p ++ rest := by
  rw [after?, List.isPrefixOf?_eq_some_iff_append_eq, eq_comm]

theorem before?_eq_some {p t rest : Text} : before? p t = some rest ↔ t = rest ++ p := by
  rw [before?, List.isSuffixOf?_eq_some_iff_append_eq, eq_comm]

end Text

namespace Template

theorem segments_ne_nil (t : Template) : segments t ≠ [] := List.splitOn_ne_nil _ _

theorem join_segments (t : Template) : Text.join '/' (segments t) = t := List.intercalate_splitOn _

theorem segments_append (s t : Template) : segments (s ++ '/' :: t) = segments s ++ segments t :=
  List.splitOn_append_cons_self s t

/-- The number of segments of a template is one more than the number of its slashes. -/
theorem length_segments (t : Template) : (segments t).length = t.count '/' + 1 := by
  induction t with
  | nil => rfl
  | cons c t ih =>
      rw [segments, List.splitOn_cons_eq_if_modifyHead, List.count_cons]
      split
      · rw [List.length_cons, ← segments, ih]
      · rw [List.length_modifyHead, ← segments, ih]

theorem slash_not_mem_segments (t : Template) : ∀ seg ∈ segments t, '/' ∉ seg := by
  induction t with
  | nil => simp [segments, List.splitOn_nil]
  | cons c t ih =>
      rw [segments, List.splitOn_cons_eq_if_modifyHead]
      split
      · exact List.forall_mem_cons.2 ⟨List.not_mem_nil, ih⟩
      · next hc =>
          have hne := segments_ne_nil t
          rw [← segments]
          generalize segments t = segs at ih hne ⊢
          cases segs with
          | nil => exact absurd rfl hne
          | cons seg segs =>
              rw [List.forall_mem_cons] at ih
              rw [List.modifyHead_cons, List.forall_mem_cons]
              refine ⟨?_, ih.2⟩
              rw [List.mem_cons, not_or]
              exact ⟨fun h => hc (beq_iff_eq.2 h.symm), ih.1⟩

/-! ## Two ways of cutting -/

/-- The segments between all slashes.  An outer slash that was set apart has an empty segment on its outer side,
and between such slashes there is at least one segment. -/
def Parts.segments (parts : Parts) : List Text :=
  (if parts.leading then [[]] else []) ++ (if parts.inner = [] then [[]] else parts.inner) ++
    (if parts.trailing then [[]] else [])

/-- The template with its outer slashes set back. -/
def Parts.text (parts : Parts) : Template :=
  (if parts.leading then ['/'] else []) ++ Text.join '/' parts.inner ++ (if parts.trailing then ['/'] else [])

/-- If nothing is made of an empty segment, what is made of the segments between all slashes is joined to the
same as what is made of the parts. -/
theorem Parts.join_map_segments {f : Text → Text} (hf : f [] = []) (parts : Parts) :
    Text.join '/' (parts.segments.map f) = (if parts.leading then ['/'] else []) ++
      Text.join '/' (parts.inner.map f) ++ (if parts.trailing then ['/'] else []) := by
  obtain ⟨leading, inner, trailing⟩ := parts
  have houter : ∀ outer : Bool,
      (if outer then [[]] else [] : List Text).map f = if outer then [[]] else [] := by
    intro outer
    cases outer <;> simp [hf]
  -- No segment and one empty segment are joined to the same.
  have hinner : ((if inner = [] then [[]] else inner).map f) ≠ [] ∧
      Text.join '/' ((if inner = [] then [[]] else inner).map f) = Text.join '/' (inner.map f) := by
    cases inner with
    | nil => exact ⟨by simp, by rw [if_pos rfl, List.map_singleton, hf]; rfl⟩
    | cons seg inner => exact ⟨by simp, rfl⟩
  rw [Parts.segments, List.append_assoc, List.map_append, List.map_append, houter, houter,
    Text.join_empty_append '/' leading (List.append_ne_nil_of_left_ne_nil hinner.1 _),
    Text.join_append_empty '/' trailing hinner.1, hinner.2, List.append_assoc]

/-- What is between the outer slashes, and what they add to its segments. -/
theorem exists_body (t : Template) : ∃ leading body trailing,
    split t = ⟨leading, if body.isEmpty then [] else body.splitOn '/', trailing⟩ ∧
      segments t = (if leading then [[]] else []) ++ segments body ++ (if trailing then [[]] else []) := by
  unfold split
  cases hstart : Text.after? ['/'] t with
  | none =>
      dsimp only
      cases hend : Text.before? ['/'] t with
      | none => exact ⟨false, t, false, rfl, (List.append_nil _).symm⟩
      | some body =>
          refine ⟨false, body, true, rfl, ?_⟩
          rw [Text.before?_eq_some.1 hend]
          exact segments_append body []
  | some rest =>
      have hsegs : segments t = [[]] ++ segments rest := by
        rw [Text.after?_eq_some.1 hstart]
        exact segments_append [] rest
      dsimp only
      cases hend : Text.before? ['/'] rest with
      | none => exact ⟨true, rest, false, rfl, hsegs.trans (List.append_nil _).symm⟩
      | some body =>
          refine ⟨true, body, true, rfl, hsegs.trans ?_⟩
          rw [Text.before?_eq_some.1 hend, if_pos rfl, List.append_assoc]
          exact congrArg _ (segments_append body [])

/-- Both ways of cutting give the same segments. -/
theorem split_segments (t : Template) : (split t).segments = segments t := by
  obtain ⟨leading, body, trailing, hsplit, hsegs⟩ := exists_body t
  have hinner : (if (if body.isEmpty then [] else body.splitOn '/') = [] then [[]]
      else if body.isEmpty then [] else body.splitOn '/') = segments body := by
    cases body with
    | nil => rfl
    | cons c body => exact if_neg (segments_ne_nil (c :: body))
  rw [hsegs, hsplit, ← hinner]
  rfl

/-- Setting the outer slashes apart loses nothing. -/
theorem split_text (t : Template) : (split t).text = t := by
  have h := Parts.join_map_segments (f := id) rfl (split t)
  rw [List.map_id, List.map_id, split_segments, join_segments] at h
  exact h.symm

theorem slash_not_mem_inner (t : Template) : ∀ seg ∈ (split t).inner, '/' ∉ seg := by
  intro seg hseg
  refine slash_not_mem_segments t seg ?_
  rw [← split_segments, Parts.segments, if_neg (List.ne_nil_of_mem hseg)]
  simp [hseg]

/-! ## The expression of a template -/

theorem segmentRegex_nil : segmentRegex [] = [] := rfl

/-- An expression is put together from the segments and slashes between them. -/
theorem regex_eq (t : Template) : regex t = Text.join '/' ((segments t).map segmentRegex) := by
  rw [← split_segments, Parts.join_map_segments segmentRegex_nil]
  rfl

/-! ## Filling in values -/

theorem fillSegments_literal {seg : Text} (h : Placeholder.ofSegment? seg = none) (segs args : List Text) :
    fillSegments (seg :: segs) args = (fillSegments segs args).map (seg :: ·) := by
  simp only [fillSegments, h]

theorem fillSegments_value {seg : Text} {p : Placeholder} (h : Placeholder.ofSegment? seg = some p)
    (segs : List Text) (arg : Text) (args : List Text) :
    fillSegments (seg :: segs) (arg :: args) = (fillSegments segs args).map (arg :: ·) := by
  simp only [fillSegments, h]

/-- Rows of segments are filled one after the other, the second with the values that the first leaves. -/
theorem fillSegments_append (segs more args : List Text) : fillSegments (segs ++ more) args =
    (fillSegments segs args).bind fun parts =>
      (fillSegments more (args.drop (segs.filterMap Placeholder.ofSegment?).length)).map (parts ++ ·) := by
  induction segs generalizing args with
  | nil => simp [fillSegments]
  | cons seg segs ih =>
      rw [List.cons_append]
      cases hseg : Placeholder.ofSegment? seg with
      | none =>
          rw [fillSegments_literal hseg, fillSegments_literal hseg, ih, List.filterMap_cons_none hseg]
          cases fillSegments segs args with
          | none => rfl
          | some parts => exact Option.map_map _ _ _
      | some p =>
          cases args with
          | nil => simp [fillSegments, hseg]
          | cons arg args =>
              rw [fillSegments_value hseg, fillSegments_value hseg, ih, List.filterMap_cons_some hseg,
                List.length_cons, List.drop_succ_cons]
              cases fillSegments segs args with
              | none => rfl
              | some parts => exact Option.map_map _ _ _

/-- So are they by name. -/
theorem fillSegmentsWith_append (value : Text → Option Text) (segs more : List Text) :
    fillSegmentsWith value (segs ++ more) = (fillSegmentsWith value segs).bind fun parts =>
      (fillSegmentsWith value more).map (parts ++ ·) := by
  induction segs with
  | nil => cases h : fillSegmentsWith value more <;> simp [fillSegmentsWith, h, Except.bind, Except.map]
  | cons seg segs ih =>
      rw [List.cons_append, fillSegmentsWith, fillSegmentsWith, ih]
      split
      · cases fillSegmentsWith value segs with
        | error name => rfl
        | ok parts => cases fillSegmentsWith value more <;> rfl
      · split
        · rfl
        · cases fillSegmentsWith value segs with
          | error name => rfl
          | ok parts => cases fillSegmentsWith value more <;> rfl

/-- The parts are the segments with the values in place of the placeholders, from left to right.  Values may be
left over. -/
inductive Fills : List Text → List Text → List Text → Prop where
  /-- No segment is left. -/
  | nil {args : List Text} : Fills [] args []
  /-- A literal segment is kept. -/
  | literal {seg : Text} {segs args parts : List Text} : Placeholder.ofSegment? seg = none →
      Fills segs args parts → Fills (seg :: segs) args (seg :: parts)
  /-- A placeholder is replaced by the next value. -/
  | value {seg arg : Text} {p : Placeholder} {segs args parts : List Text} :
      Placeholder.ofSegment? seg = some p → Fills segs args parts →
      Fills (seg :: segs) (arg :: args) (arg :: parts)

theorem fills_iff {segs args parts : List Text} : fillSegments segs args = some parts ↔ Fills segs args parts := by
  constructor
  · intro h
    induction segs generalizing args parts with
    | nil =>
        cases h
        exact .nil
    | cons seg segs ih =>
        cases hseg : Placeholder.ofSegment? seg with
        | none =>
            rw [fillSegments_literal hseg] at h
            obtain ⟨rest, hrest, rfl⟩ := Option.map_eq_some_iff.1 h
            exact .literal hseg (ih hrest)
        | some p =>
            cases args with
            | nil => simp [fillSegments, hseg] at h
            | cons arg args =>
                rw [fillSegments_value hseg] at h
                obtain ⟨rest, hrest, rfl⟩ := Option.map_eq_some_iff.1 h
                exact .value hseg (ih hrest)
  · intro h
    induction h with
    | nil => rfl
    | literal hseg _ ih => rw [fillSegments_literal hseg, ih, Option.map_some]
    | value hseg _ ih => rw [fillSegments_value hseg, ih, Option.map_some]

/-- Values by name fill a template as values in order do, if each name is bound to the value that is its
turn. -/
theorem fillSegmentsWith_of_zip {value : Text → Option Text} {segs args parts : List Text}
    (h : fillSegments segs args = some parts)
    (hvalue : ∀ b ∈ (segs.filterMap Placeholder.ofSegment?).zip args, value b.1.name = some b.2) :
    fillSegmentsWith value segs = .ok parts := by
  rw [fills_iff] at h
  induction h with
  | nil => rfl
  | literal hseg _ ih =>
      rw [List.filterMap_cons_none hseg] at hvalue
      rw [fillSegmentsWith, hseg]
      dsimp only
      rw [ih hvalue]
      rfl
  | value hseg _ ih =>
      rw [List.filterMap_cons_some hseg, List.zip_cons_cons, List.forall_mem_cons] at hvalue
      rw [fillSegmentsWith, hseg]
      dsimp only
      rw [hvalue.1, ih hvalue.2]
      rfl

end Template

end Signpost
