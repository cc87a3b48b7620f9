import Signpost.Proofs.Capture

/-!
# Names, groups and values of one segment

A template is cut in two ways, at each slash and with the outer slashes set apart, and three things are read off
its segments: the names of its placeholders, the groups of its expression, and the places where values are filled
in.  They go in step, since all are put together from what is before a segment, the segment, and what is after it.

*Around a segment.*  The text before a segment ends with a slash or is empty, and the text after it starts with
one or is empty (`Template.exists_around`).  Both are templates themselves.  So if the segment is a placeholder and
`i` others are before it, its name is number `i`, its group stands between the expressions of these two templates,
and its value between the paths they are filled to (`Template.Aligned`).

*Groups.*  Besides the groups of the placeholders, in their order, there is only literal text in the expression
(`Template.Emits`).  If all names are read back and all expressions are such by themselves, the groups that are
read are these, and what groups the expressions have themselves are inside of them
(`Template.Legible.outerGroups_of_ofText?`).
-/

namespace Signpost

/-- Around one of the parts, what is joined before it has a separator at its end and what is joined after it has
one at its start. -/
theorem Text.join_around (c : Char) (before : List Text) (part : Text) (after : List Text) :
    join c (before ++ part :: after) = join c (before ++ [[]]) ++ part ++ join c ([] :: after) := by
  have hend : join c (part :: after) = part ++ join c ([] :: after) := by
    cases after with
    | nil => rw [join_singleton, join_singleton, List.append_nil]
    | cons next after => rw [join_cons c part (by simp), join_cons c [] (by simp), List.nil_append]
  cases before with
  | nil => rw [List.nil_append, List.nil_append, join_singleton, List.nil_append, hend]
  | cons first before =>
      rw [join_append c (by simp) (by simp), join_append c (by simp) (by simp), join_singleton, hend]
      simp

namespace Template

/-! ## Groups in the text -/

/-- The text of an expression that is the groups of placeholders, in their order, and literal text. -/
inductive Emits : Text → List Placeholder → Prop where
  /-- Nothing. -/
  | nil : Emits [] []
  /-- A literal text. -/
  | literal (t : Text) {more : Text} {ps : List Placeholder} : Emits more ps → Emits (escape t ++ more) ps
  /-- The group of a placeholder. -/
  | group (p : Placeholder) {more : Text} {ps : List Placeholder} : Emits more ps →
      Emits (p.regex ++ more) (p :: ps)

namespace Emits

variable {s t : Text} {ps qs : List Placeholder}

theorem append (h : Emits s ps) (h' : Emits t qs) : Emits (s ++ t) (ps ++ qs) := by
  induction h with
  | nil => exact h'
  | literal u _ ih =>
      rw [List.append_assoc]
      exact .literal u ih
  | group p _ ih =>
      rw [List.append_assoc]
      exact .group p ih

theorem segment (seg : Text) : Emits (segmentRegex seg) ([seg].filterMap Placeholder.ofSegment?) := by
  unfold segmentRegex
  cases hseg : Placeholder.ofSegment? seg with
  | none =>
      have h := Emits.literal seg .nil
      rw [List.append_nil] at h
      rwa [List.filterMap_cons_none hseg]
  | some p =>
      have h := Emits.group p .nil
      rw [List.append_nil] at h
      rwa [List.filterMap_cons_some hseg]

theorem row : ∀ segs : List Text, Emits (Text.join '/' (segs.map segmentRegex))
    (segs.filterMap Placeholder.ofSegment?)
  | [] => .nil
  | [seg] => by
      rw [List.map_singleton, Text.join_singleton]
      exact segment seg
  | seg :: next :: segs => by
      -- A slash is an expression for itself.
      have hslash : Emits ('/' :: Text.join '/' ((next :: segs).map segmentRegex))
          ((next :: segs).filterMap Placeholder.ofSegment?) := .literal ['/'] (row (next :: segs))
      have h := (segment seg).append hslash
      rw [← List.filterMap_append] at h
      rw [List.map_cons, Text.join_cons '/' _ (by simp)]
      exact h

end Emits

/-- The groups in the expression of a template are those of its placeholders. -/
theorem emits_regex (t : Template) : Emits (regex t) (placeholders t) := by
  rw [regex_eq]
  exact .row (segments t)

/-! ## Around a segment -/

/-- The placeholder `p` is a segment of the template `t` between the templates `a` and `b`, with `i` placeholders
before it.  Its name, its group and its value stand in the same place. -/
structure Aligned (t : Template) (i : Nat) (a : Template) (p : Placeholder) (b : Template) : Prop where
  /-- The placeholder is a segment. -/
  segment : ∃ seg ∈ segments t, Placeholder.ofSegment? seg = some p ∧ t = a ++ seg ++ b
  /-- It starts where the template does, or after a slash. -/
  start : a = [] ∨ ∃ a', a = a' ++ ['/']
  /-- It ends where the template does, or before a slash. -/
  stop : b = [] ∨ ∃ b', b = '/' :: b'
  /-- So many names are before its name. -/
  number : (params a).length = i
  /-- Its name is between those of the two templates. -/
  name : params t = params a ++ p.name :: params b
  /-- Its group is between the expressions of the two templates. -/
  group : regex t = regex a ++ p.regex ++ regex b
  /-- So many groups are before its group. -/
  groups : Emits (regex a) (placeholders a) ∧ Emits (regex b) (placeholders b)
  /-- Of values in order, its own is the one with its number, between the paths of the two templates. -/
  value (args : List Text) : fill? t args =
    (fill? a args).bind fun x => args[i]?.bind fun v => (fill? b (args.drop (i + 1))).map fun y => x ++ v ++ y
  /-- Of values by name, its own is that of its name, between the paths of the two templates. -/
  valueOfName (value : Text → Option Text) : fillWith t value =
    (fillWith a value).bind fun x => (valueOf value id p).bind fun v => (fillWith b value).map fun y => x ++ v ++ y

section Around

variable {t : Template} {before after : List Text} {seg : Text} {p : Placeholder}

theorem ofSegment?_nil : Placeholder.ofSegment? [] = none := rfl

/-- The text before a segment is cut into the segments before it and an empty one. -/
theorem segments_before (h : segments t = before ++ seg :: after) :
    segments (Text.join '/' (before ++ [[]])) = before ++ [[]] := by
  refine segments_join_of_not_mem (by simp) fun part hpart => ?_
  rcases List.mem_append.1 hpart with hpart | hpart
  · exact slash_not_mem_segments t part (by rw [h]; exact List.mem_append_left _ hpart)
  · rw [List.mem_singleton.1 hpart]
    exact List.not_mem_nil

/-- The text after a segment is cut into an empty segment and those after it. -/
theorem segments_after (h : segments t = before ++ seg :: after) :
    segments (Text.join '/' ([] :: after)) = [] :: after := by
  refine segments_join_of_not_mem (by simp) (List.forall_mem_cons.2 ⟨List.not_mem_nil, fun part hpart => ?_⟩)
  exact slash_not_mem_segments t part (by rw [h]; simp [hpart])

/-- A row that starts with a placeholder needs a value for it first. -/
theorem fillSegments_placeholder (hseg : Placeholder.ofSegment? seg = some p) (segs args : List Text) :
    fillSegments (seg :: segs) args =
      args.head?.bind fun v => (fillSegments segs args.tail).map (v :: ·) := by
  cases args with
  | nil => simp [fillSegments, hseg]
  | cons arg args => exact fillSegments_value hseg segs arg args

theorem fillSegmentsWith_placeholder (hseg : Placeholder.ofSegment? seg = some p)
    (value : Text → Option Text) (segs : List Text) : fillSegmentsWith value (seg :: segs) =
      (valueOf value id p).bind fun v => (fillSegmentsWith value segs).map (v :: ·) := by
  rw [fillSegmentsWith, hseg, valueOf]
  dsimp only
  cases value p.name <;> rfl

/-- Values in order are filled in before the placeholder, then for it, and then after it. -/
theorem fill?_around (h : segments t = before ++ seg :: after) (hseg : Placeholder.ofSegment? seg = some p)
    (args : List Text) : fill? t args = (fill? (Text.join '/' (before ++ [[]])) args).bind fun x =>
      args[(before.filterMap Placeholder.ofSegment?).length]?.bind fun v =>
        (fill? (Text.join '/' ([] :: after))
          (args.drop ((before.filterMap Placeholder.ofSegment?).length + 1))).map fun y => x ++ v ++ y := by
  rw [fill?, fill?, fill?, h, segments_before h, segments_after h, fillSegments_append, fillSegments_append,
    fillSegments_placeholder hseg, fillSegments_literal ofSegment?_nil, fillSegments_literal ofSegment?_nil,
    List.head?_drop, List.tail_drop]
  generalize (before.filterMap Placeholder.ofSegment?).length = i
  cases fillSegments before args with
  | none => rfl
  | some xs =>
      cases args[i]? with
      | none => rfl
      | some v =>
          simp only [Option.bind_some, Option.map_map]
          cases fillSegments after (args.drop (i + 1)) with
          | none => rfl
          | some ys => exact congrArg some (Text.join_around '/' xs v ys)

/-- So are values by name. -/
theorem fillWith_around (h : segments t = before ++ seg :: after) (hseg : Placeholder.ofSegment? seg = some p)
    (value : Text → Option Text) : fillWith t value =
      (fillWith (Text.join '/' (before ++ [[]])) value).bind fun x => (valueOf value id p).bind fun v =>
        (fillWith (Text.join '/' ([] :: after)) value).map fun y => x ++ v ++ y := by
  have hempty : fillSegmentsWith value [[]] = .ok [[]] := rfl
  have hcons : fillSegmentsWith value ([] :: after) = (fillSegmentsWith value after).map ([] :: ·) := rfl
  rw [fillWith, fillWith, fillWith, h, segments_before h, segments_after h, fillSegmentsWith_append,
    fillSegmentsWith_append, fillSegmentsWith_placeholder hseg, hempty, hcons]
  cases fillSegmentsWith value before with
  | error name => rfl
  | ok xs =>
      cases valueOf value id p with
      | error name => rfl
      | ok v =>
          cases fillSegmentsWith value after with
          | error name => rfl
          | ok ys => exact congrArg Except.ok (Text.join_around '/' xs v ys)

theorem aligned_of_segments (h : segments t = before ++ seg :: after)
    (hseg : Placeholder.ofSegment? seg = some p) :
    Aligned t (before.filterMap Placeholder.ofSegment?).length (Text.join '/' (before ++ [[]])) p
      (Text.join '/' ([] :: after)) := by
  have hbefore := segments_before h
  have hafter := segments_after h
  have hps : placeholders (Text.join '/' (before ++ [[]])) = before.filterMap Placeholder.ofSegment? := by
    rw [placeholders, hbefore, List.filterMap_append]
    exact List.append_nil _
  have hqs : placeholders (Text.join '/' ([] :: after)) = after.filterMap Placeholder.ofSegment? := by
    rw [placeholders, hafter, List.filterMap_cons_none ofSegment?_nil]
  refine ⟨⟨seg, ?_, hseg, ?_⟩, ?_, ?_, ?_, ?_, ?_, ⟨emits_regex _, emits_regex _⟩,
    fill?_around h hseg, fillWith_around h hseg⟩
  · rw [h]
    exact List.mem_append_right _ List.mem_cons_self
  · rw [← Text.join_around, ← h, join_segments]
  · cases before with
    | nil => exact .inl rfl
    | cons first before =>
        refine .inr ⟨Text.join '/' (first :: before), ?_⟩
        rw [Text.join_append '/' (by simp) (by simp)]
        rfl
  · cases after with
    | nil => exact .inl rfl
    | cons next after => exact .inr ⟨_, Text.join_cons '/' [] (by simp)⟩
  · rw [params, List.length_map, hps]
  · rw [params, params, params, hps, hqs, placeholders, h, List.filterMap_append,
      List.filterMap_cons_some hseg, List.map_append, List.map_cons]
  · rw [regex_eq, regex_eq, regex_eq, h, hbefore, hafter, List.map_append, List.map_append, List.map_cons,
      Text.join_around, segmentRegex.eq_def seg, hseg]
    rfl

end Around

/-- The placeholder with a given number is one of the segments. -/
theorem exists_segment {segs : List Text} {i : Nat}
    (hi : i < (segs.filterMap Placeholder.ofSegment?).length) :
    ∃ before seg p after, segs = before ++ seg :: after ∧ Placeholder.ofSegment? seg = some p ∧
      (before.filterMap Placeholder.ofSegment?).length = i := by
  have hcut := (List.take_append_drop i (segs.filterMap Placeholder.ofSegment?)).symm
  rw [List.drop_eq_getElem_cons hi] at hcut
  obtain ⟨first, rest, hsegs, hfirst, hrest⟩ := List.filterMap_eq_append_iff.1 hcut
  obtain ⟨literals, seg, after, rfl, hliterals, hseg, -⟩ := List.filterMap_eq_cons_iff.1 hrest
  refine ⟨first ++ literals, seg, _, after, ?_, hseg, ?_⟩
  · rw [hsegs, List.append_assoc]
  · rw [List.filterMap_append, hfirst, List.filterMap_eq_nil_iff.2 hliterals, List.append_nil, List.length_take,
      Nat.min_eq_left (Nat.le_of_lt hi)]

theorem exists_aligned {t : Template} {i : Nat} (hi : i < (params t).length) : ∃ a p b, Aligned t i a p b := by
  rw [params, List.length_map, placeholders] at hi
  obtain ⟨before, seg, p, after, hsegs, hseg, rfl⟩ := exists_segment hi
  exact ⟨_, p, _, aligned_of_segments hsegs hseg⟩

/-- The two ways of cutting a template agree: setting the outer slashes apart loses nothing and leaves no other
slash in a segment, and the expression is that of the segments between all slashes.  So the name, the group and
the value with the same number are those of the same segment, and a compiled template has its names in the order
of its groups. -/
theorem inStep (t : Template) :
    (split t).text = t ∧ (∀ seg ∈ (split t).inner, '/' ∉ seg) ∧ (split t).segments = segments t ∧
      regex t = Text.join '/' ((segments t).map segmentRegex) ∧ Emits (regex t) (placeholders t) ∧
      (∀ i < (params t).length, ∃ a p b, Aligned t i a p b) ∧
      ∀ s p, Pattern.compile s t = .ok p → p.params = params t ∧ p.regex.source = anchoredRegex t ∧
        ((∀ q ∈ placeholders t, q.Unbroken) → ∃ e, Regex.Expr.ofText? (anchoredRegex t) = some e ∧
          p.regex.prog = (Regex.Prog.ofExpr e 0).1 ∧
          e.outerGroups = (placeholders t).map fun q => (some q.name, q.kind.body)) := by
  refine ⟨split_text t, slash_not_mem_inner t, split_segments t, regex_eq t, emits_regex t,
    fun i hi => exists_aligned hi, fun s p hp => ?_⟩
  obtain ⟨e, he, rfl⟩ := Pattern.eq_of_compile hp
  refine ⟨rfl, rfl, fun hunbroken => ⟨e, he, rfl, ?_⟩⟩
  exact (legible_of_ofText? hunbroken he).outerGroups_of_ofText? he

/-- The second placeholder has the second of the outer groups, though there is a group in the first. -/
theorem aligned_of_nested : ∃ p e, Pattern.compile {} "//<<a:raw((x)|y)>>/b.c//<<d:int>>/".toList = .ok p ∧
    p.params = ["a".toList, "d".toList] ∧
    (∃ a q b, Aligned "//<<a:raw((x)|y)>>/b.c//<<d:int>>/".toList 1 a q b) ∧
    p.regex.prog = (Regex.Prog.ofExpr e 0).1 ∧ e.outerGroups.map Prod.fst = p.params.map some := by
  have hok : (Pattern.compile {} "//<<a:raw((x)|y)>>/b.c//<<d:int>>/".toList).toOption.isSome := by
    decide +kernel
  obtain ⟨p, hp⟩ := Pattern.exists_ok_of_isSome hok
  have hps : placeholders "//<<a:raw((x)|y)>>/b.c//<<d:int>>/".toList =
      [⟨"a".toList, .raw "(x)|y".toList⟩, ⟨"d".toList, .int⟩] := by decide
  have hparams : params "//<<a:raw((x)|y)>>/b.c//<<d:int>>/".toList = ["a".toList, "d".toList] := by
    rw [params, hps]
    rfl
  have hunbroken : ∀ q ∈ placeholders "//<<a:raw((x)|y)>>/b.c//<<d:int>>/".toList, q.Unbroken := by
    simp only [hps, List.forall_mem_cons]
    refine ⟨⟨by decide, .of_tokens? (by decide +kernel) 6 (by decide +kernel)⟩, ⟨by decide, ?_⟩, by simp⟩
    exact Kind.standalone rfl
  obtain ⟨-, -, -, -, -, haligned, hcompiled⟩ := inStep "//<<a:raw((x)|y)>>/b.c//<<d:int>>/".toList
  obtain ⟨hnames, -, hgroups⟩ := hcompiled {} p hp
  obtain ⟨e, -, hprog, houter⟩ := hgroups hunbroken
  refine ⟨p, e, hp, hnames.trans hparams, haligned 1 (by rw [hparams]; decide), hprog, ?_⟩
  rw [houter, hnames, hparams, hps]
  rfl

end Template

end Signpost
