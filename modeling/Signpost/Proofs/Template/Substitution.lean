import Signpost.Proofs.Template.Unique

/-!
# Substitution

*By position.*  A filled template is its segments with a value in place of each placeholder and all else as it
was (`Template.Substituted`).  The value of a placeholder is told by how many placeholders stand before it.  There
is such a path exactly if there are as many values as placeholders (`Template.exists_fillSegments`,
`Template.fillSegments_eq_none_iff`).

*One traversal.*  Filling goes over the segments once, from left to right, and asks for a value at each
placeholder (`Template.fillM`).  If values are taken off a list one after another, those beyond the placeholders
are left over (`Template.run_fillM`); if they are looked up by name, the first name that has none ends it
(`Template.fillM_valueOf`).

*Reading back.*  Values without slashes fill one segment each, so a path tells the values it was built from
(`Template.take_eq_of_fill?`).
-/

namespace Signpost

namespace Template

variable {segs args args' parts : List Text}

/-! ## By position -/

/-- How many of the segments before a position are placeholders. -/
def turn (segs : List Text) (i : Nat) : Nat :=
  ((segs.take i).filterMap Placeholder.ofSegment?).length

/-- The parts are the segments with the values of `args`, in their order, in place of the placeholders. -/
structure Substituted (segs args parts : List Text) : Prop where
  /-- There is a part for each segment. -/
  length_eq : parts.length = segs.length
  /-- Literal segments are kept. -/
  literal : ∀ (i : Nat) (seg : Text), segs[i]? = some seg → Placeholder.ofSegment? seg = none →
    parts[i]? = some seg
  /-- A placeholder is replaced by the value whose turn it is. -/
  value : ∀ (i : Nat) (seg : Text) (p : Placeholder), segs[i]? = some seg →
    Placeholder.ofSegment? seg = some p → parts[i]? = args[turn segs i]?

namespace Substituted

theorem nil : Substituted [] args [] where
  length_eq := rfl
  literal i seg h _ := by simp at h
  value i seg p h _ := by simp at h

theorem cons_literal {seg : Text} (hseg : Placeholder.ofSegment? seg = none)
    (h : Substituted segs args parts) : Substituted (seg :: segs) args (seg :: parts) where
  length_eq := by simp [h.length_eq]
  literal
    | 0, _, hi, _ => hi
    | i + 1, found, hi, hfound => h.literal i found hi hfound
  value
    | 0, _, p, hi, hp => by
        cases hi
        rw [hseg] at hp
        cases hp
    | i + 1, found, p, hi, hp => by
        have hturn : turn (seg :: segs) (i + 1) = turn segs i := by
          simp [turn, List.filterMap_cons_none hseg]
        rw [hturn]
        exact h.value i found p hi hp

theorem cons_value {seg arg : Text} {q : Placeholder} (hseg : Placeholder.ofSegment? seg = some q)
    (h : Substituted segs args parts) : Substituted (seg :: segs) (arg :: args) (arg :: parts) where
  length_eq := by simp [h.length_eq]
  literal
    | 0, _, hi, hnone => by
        cases hi
        rw [hseg] at hnone
        cases hnone
    | i + 1, found, hi, hfound => h.literal i found hi hfound
  value
    | 0, _, _, _, _ => rfl
    | i + 1, found, p, hi, hp => by
        have hturn : turn (seg :: segs) (i + 1) = turn segs i + 1 := by
          simp [turn, List.filterMap_cons_some hseg]
        rw [hturn]
        exact h.value i found p hi hp

end Substituted

theorem Fills.substituted (h : Fills segs args parts) : Substituted segs args parts := by
  induction h with
  | nil => exact .nil
  | literal hseg _ ih => exact ih.cons_literal hseg
  | value hseg _ ih => exact ih.cons_value hseg

/-- Segments that are filled had enough values. -/
theorem Fills.le_length (h : Fills segs args parts) :
    (segs.filterMap Placeholder.ofSegment?).length ≤ args.length := by
  induction h with
  | nil => exact Nat.zero_le _
  | literal hseg _ ih => rwa [List.filterMap_cons_none hseg]
  | value hseg _ ih =>
      rw [List.filterMap_cons_some hseg]
      exact Nat.succ_le_succ ih

/-- Enough values fill all segments. -/
theorem exists_fillSegments (h : (segs.filterMap Placeholder.ofSegment?).length ≤ args.length) :
    ∃ parts, fillSegments segs args = some parts := by
  induction segs generalizing args with
  | nil => exact ⟨[], rfl⟩
  | cons seg segs ih =>
      cases hseg : Placeholder.ofSegment? seg with
      | none =>
          rw [List.filterMap_cons_none hseg] at h
          obtain ⟨parts, hparts⟩ := ih h
          exact ⟨seg :: parts, by rw [fillSegments_literal hseg, hparts]; rfl⟩
      | some p =>
          rw [List.filterMap_cons_some hseg, List.length_cons] at h
          cases args with
          | nil => simp at h
          | cons arg args =>
              obtain ⟨parts, hparts⟩ := ih (Nat.le_of_succ_le_succ h)
              exact ⟨arg :: parts, by rw [fillSegments_value hseg, hparts]; rfl⟩

/-- Too few values fill nothing. -/
theorem fillSegments_eq_none_iff : fillSegments segs args = none ↔
    args.length < (segs.filterMap Placeholder.ofSegment?).length := by
  constructor
  · intro hnone
    by_contra h
    obtain ⟨parts, hparts⟩ := exists_fillSegments (Nat.le_of_not_lt h)
    cases hnone.symm.trans hparts
  · intro h
    cases hfill : fillSegments segs args with
    | none => rfl
    | some parts => exact absurd (fills_iff.1 hfill).le_length (Nat.not_le.2 h)

/-- Values beyond the placeholders are not used. -/
theorem fillSegments_take (segs args : List Text) :
    fillSegments segs (args.take (segs.filterMap Placeholder.ofSegment?).length) =
      fillSegments segs args := by
  induction segs generalizing args with
  | nil => rfl
  | cons seg segs ih =>
      cases hseg : Placeholder.ofSegment? seg with
      | none => rw [List.filterMap_cons_none hseg, fillSegments_literal hseg, fillSegments_literal hseg, ih]
      | some p =>
          cases args with
          | nil => rw [List.take_nil]
          | cons arg args =>
              rw [List.filterMap_cons_some hseg, List.length_cons, List.take_succ_cons,
                fillSegments_value hseg, fillSegments_value hseg, ih]

theorem fill?_eq_none_iff {t : Template} : fill? t args = none ↔ args.length < (params t).length := by
  rw [fill?, Option.map_eq_none_iff, fillSegments_eq_none_iff, params, List.length_map, placeholders]

theorem exists_fill? {t : Template} (h : (params t).length ≤ args.length) :
    ∃ path, fill? t args = some path := by
  cases hfill : fill? t args with
  | none => exact absurd (fill?_eq_none_iff.1 hfill) (Nat.not_lt.2 h)
  | some path => exact ⟨path, rfl⟩

theorem fill?_take (t : Template) (args : List Text) :
    fill? t (args.take (params t).length) = fill? t args := by
  rw [fill?, params, List.length_map, placeholders, fillSegments_take]
  rfl

/-! ## One traversal -/

/-- The path with each placeholder replaced by what an action gives for it, from left to right. -/
def fillM {m : Type → Type} [Monad m] (value : Placeholder → m Text) (t : Template) : m Text := do
  let parts ← (segments t).mapM fun seg =>
    match Placeholder.ofSegment? seg with
    | some p => value p
    | none => pure seg
  return Text.join '/' parts

/-- The first of the values that are left, or an error if there is none. -/
def nextValue {ε : Type} (e : ε) : StateT (List Text) (Except ε) Text
  | [] => .error e
  | v :: rest => .ok (v, rest)

section Traversal

variable {ε : Type} (e : ε)

/-- Taking values one after another fills the segments, and leaves those beyond the placeholders. -/
theorem run_mapM_nextValue (h : Fills segs args parts) :
    (segs.mapM fun seg =>
      match Placeholder.ofSegment? seg with
      | some _ => nextValue e
      | none => pure seg).run args =
    .ok (parts, args.drop (segs.filterMap Placeholder.ofSegment?).length) := by
  induction h with
  | nil => rfl
  | literal hseg _ ih =>
      rw [List.mapM_cons, hseg, List.filterMap_cons_none hseg]
      simp [ih]
  | @value seg arg p segs args parts hseg _ ih =>
      have hfirst : (nextValue e).run (arg :: args) = pure (arg, args) := rfl
      rw [List.mapM_cons, hseg, List.filterMap_cons_some hseg]
      simp [hfirst, ih]

theorem run_fillM {t : Template} {path : Text} (h : fill? t args = some path) :
    (fillM (fun _ => nextValue e) t).run args = .ok (path, args.drop (params t).length) := by
  obtain ⟨parts, hparts, rfl⟩ := Option.map_eq_some_iff.1 h
  rw [fillM, StateT.run_bind, run_mapM_nextValue e (fills_iff.1 hparts), params, List.length_map]
  rfl

/-- The value of a placeholder's name, or an error made of the name. -/
def valueOf {ε : Type} (value : Text → Option Text) (fault : Text → ε) (p : Placeholder) : Except ε Text :=
  match value p.name with
  | some v => .ok v
  | none => .error (fault p.name)

theorem mapM_valueOf (value : Text → Option Text) (fault : Text → ε) (segs : List Text) :
    (segs.mapM fun seg =>
      match Placeholder.ofSegment? seg with
      | some p => valueOf value fault p
      | none => pure seg) = (fillSegmentsWith value segs).mapError fault := by
  induction segs with
  | nil => rfl
  | cons seg segs ih =>
      rw [List.mapM_cons, ih, fillSegmentsWith]
      cases hseg : Placeholder.ofSegment? seg with
      | none => cases fillSegmentsWith value segs <;> rfl
      | some p =>
          dsimp only
          rw [valueOf]
          cases value p.name with
          | none => rfl
          | some v => cases fillSegmentsWith value segs <;> rfl

/-- Looking values up by name gives the same path, or the error of the same name. -/
theorem fillM_valueOf (value : Text → Option Text) (fault : Text → ε) (t : Template) :
    fillM (valueOf value fault) t = (fillWith t value).mapError fault := by
  rw [fillM, mapM_valueOf, fillWith]
  cases fillSegmentsWith value (segments t) <;> rfl

end Traversal

/-! ## By name -/

section Names

variable {value : Text → Option Text}

theorem value_eq_of_map {ps : List Placeholder} {vs : List Text}
    (h : ps.map (fun p => value p.name) = vs.map some) : ∀ b ∈ ps.zip vs, value b.1.name = some b.2 := by
  induction ps generalizing vs with
  | nil => simp
  | cons p ps ih =>
      cases vs with
      | nil => simp
      | cons v vs =>
          simp only [List.map_cons, List.cons.injEq] at h
          rw [List.zip_cons_cons, List.forall_mem_cons]
          exact ⟨h.1, ih h.2⟩

/-- If all names have values, these fill the template in the order of the names. -/
theorem exists_fillWith {t : Template} {vs : List Text} (h : (params t).map value = vs.map some) :
    ∃ path, fillWith t value = .ok path ∧ fill? t vs = some path := by
  rw [params, List.map_map] at h
  have hlen : ((segments t).filterMap Placeholder.ofSegment?).length = vs.length := by
    simpa [placeholders] using congrArg List.length h
  obtain ⟨parts, hparts⟩ := exists_fillSegments (Nat.le_of_eq hlen)
  refine ⟨Text.join '/' parts, ?_, by rw [fill?, hparts, Option.map_some]⟩
  rw [fillWith, fillSegmentsWith_of_zip hparts (value_eq_of_map h)]
  rfl

/-- The first name without a value ends the filling. -/
theorem fillSegmentsWith_eq_error {before after : List Text} {name : Text}
    (h : (segs.filterMap Placeholder.ofSegment?).map Placeholder.name = before ++ name :: after)
    (hbefore : ∀ n ∈ before, (value n).isSome) (hname : value name = none) :
    fillSegmentsWith value segs = .error name := by
  induction segs generalizing before with
  | nil => simp at h
  | cons seg segs ih =>
      rw [fillSegmentsWith]
      cases hseg : Placeholder.ofSegment? seg with
      | none =>
          rw [List.filterMap_cons_none hseg] at h
          rw [ih h hbefore]
          rfl
      | some p =>
          rw [List.filterMap_cons_some hseg, List.map_cons] at h
          dsimp only
          cases before with
          | nil =>
              cases h
              rw [hname]
          | cons n before =>
              obtain ⟨rfl, hrest⟩ := List.cons.inj h
              rw [List.forall_mem_cons] at hbefore
              obtain ⟨v, hv⟩ := Option.isSome_iff_exists.1 hbefore.1
              rw [hv, ih hrest hbefore.2]
              rfl

theorem fillWith_eq_error {t : Template} {before after : List Text} {name : Text}
    (h : params t = before ++ name :: after) (hbefore : ∀ n ∈ before, (value n).isSome)
    (hname : value name = none) : fillWith t value = .error name := by
  rw [fillWith, fillSegmentsWith_eq_error h hbefore hname]
  rfl

end Names

/-! ## Reading back -/

/-- A part is a segment of the template or one of the values used. -/
theorem Fills.mem_parts (h : Fills segs args parts) : ∀ part ∈ parts,
    part ∈ segs ∨ part ∈ args.take (segs.filterMap Placeholder.ofSegment?).length := by
  induction h with
  | nil => simp
  | literal hseg _ ih =>
      rw [List.filterMap_cons_none hseg, List.forall_mem_cons]
      exact ⟨.inl List.mem_cons_self, fun part hpart => (ih part hpart).imp_left (List.mem_cons_of_mem _)⟩
  | value hseg _ ih =>
      rw [List.filterMap_cons_some hseg, List.length_cons, List.take_succ_cons, List.forall_mem_cons]
      exact ⟨.inr List.mem_cons_self, fun part hpart =>
        (ih part hpart).imp (List.mem_cons_of_mem _) (List.mem_cons_of_mem _)⟩

/-- The parts tell the values used. -/
theorem Fills.take_eq (h : Fills segs args parts) (h' : Fills segs args' parts) :
    args.take (segs.filterMap Placeholder.ofSegment?).length =
      args'.take (segs.filterMap Placeholder.ofSegment?).length := by
  induction h generalizing args' with
  | nil => rfl
  | literal hseg _ ih =>
      cases h' with
      | literal _ h' =>
          rw [List.filterMap_cons_none hseg]
          exact ih h'
      | value hseg' _ =>
          rw [hseg] at hseg'
          cases hseg'
  | value hseg _ ih =>
      cases h' with
      | literal hseg' _ =>
          rw [hseg] at hseg'
          cases hseg'
      | value _ h' =>
          rw [List.filterMap_cons_some hseg, List.length_cons, List.take_succ_cons, List.take_succ_cons, ih h']

variable {t : Template} {path : Text}

/-- Values without slashes fill one segment each. -/
theorem fillSegments_of_fill? (hslash : ∀ v ∈ args.take (params t).length, '/' ∉ v)
    (h : fill? t args = some path) : fillSegments (segments t) args = some (segments path) := by
  obtain ⟨parts, hparts, rfl⟩ := Option.map_eq_some_iff.1 h
  rw [params, List.length_map] at hslash
  have hnot : ∀ part ∈ parts, '/' ∉ part := fun part hpart =>
    ((fills_iff.1 hparts).mem_parts part hpart).elim (slash_not_mem_segments t part) (hslash part)
  rw [segments_join_of_not_mem (fillSegments_ne_nil (segments_ne_nil t) hparts) hnot, hparts]

/-- A path tells the values without slashes that it was built from. -/
theorem take_eq_of_fill? (hslash : ∀ v ∈ args.take (params t).length, '/' ∉ v)
    (hslash' : ∀ v ∈ args'.take (params t).length, '/' ∉ v) (h : fill? t args = some path)
    (h' : fill? t args' = some path) : args.take (params t).length = args'.take (params t).length := by
  have heq := (fills_iff.1 (fillSegments_of_fill? hslash h)).take_eq
    (fills_iff.1 (fillSegments_of_fill? hslash' h'))
  rwa [params, List.length_map]

end Template

end Signpost
