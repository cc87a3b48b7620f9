import Signpost.Regex.Compile
import Signpost.Proofs.Regex.GroupName
import Signpost.Proofs.Template.Kind

/-!
# The expression of a template

The text of a template's expression is read segment by segment (`Template.ofText?_anchoredRegex`): a
literal segment gives its characters, whether or not an expression would give them a meaning of their own,
and a placeholder gives a group under its name with the expression of its kind for a body.  The parts stand
in the order of the segments, between the start and the end of the text.

*Legible placeholders.*  This needs of a placeholder that its name is read as the name of a group and that
the expression of its kind is one by itself (`Placeholder.Legible`).  An ASCII identifier is such a name
(`Placeholder.Readable`).

*Names.*  No placeholder has its name twice in the expression, neither as a placeholder further on nor in
the body of one (`Placeholder.Distinct`), since an expression in which a name is given twice is refused.
-/

namespace Signpost

open Regex

/-! ## Legible placeholders -/

/-- Whether a text is a letter or an underscore and then letters, digits and underscores, all of ASCII. -/
def isIdentifier : Text → Bool
  | [] => false
  | c :: rest => (c.isAlpha || c == '_') && rest.all fun d => d.isAlphanum || d == '_'

namespace Placeholder

/-- A placeholder whose name is read as the name of a group and whose expression is one by itself. -/
structure Legible (p : Placeholder) : Prop where
  /-- The name is read as one. -/
  name : IsGroupName p.name
  /-- The expression is one by itself. -/
  fragment : Expr.Standalone p.kind.fragment

/-- A placeholder whose name is an identifier and whose expression is one by itself. -/
structure Readable (p : Placeholder) : Prop where
  /-- The name is an identifier. -/
  name : isIdentifier p.name = true
  /-- The expression is one by itself. -/
  fragment : Expr.Standalone p.kind.fragment

/-- The group of a placeholder. -/
def expr (p : Placeholder) : Expr := .group (some p.name) p.kind.body

/-- The names that the group of a placeholder captures under. -/
def names (p : Placeholder) : List Text := p.name :: p.kind.body.names

theorem regex_append (p : Placeholder) (more : Text) : p.regex ++ more =
    '(' :: '?' :: 'P' :: '<' :: (p.name ++ '>' :: (p.kind.fragment ++ ')' :: more)) := by
  simp [regex]

/-- No placeholder has its name again further on. -/
def Distinct (ps : List Placeholder) : Prop := ps.Pairwise fun p q => p.name ∉ q.names

end Placeholder

theorem isAlpha_lt {c : Char} (h : c.isAlpha) : c.toNat < 128 := by
  rw [Kind.isAlpha_iff] at h
  omega

theorem isDigit_lt {c : Char} (h : c.isDigit) : c.toNat < 128 := by
  simp [Char.isDigit, UInt32.le_iff_toNat_le] at h
  omega

theorem nameChar_start {c : Char} (h : (c.isAlpha || c == '_') = true) : nameChar true c = true := by
  rw [Bool.or_eq_true] at h
  rcases h with h | h
  · simp [nameChar, Unicode.isAlphabetic, isAlpha_lt h, h]
  · simp [nameChar, h]

theorem nameChar_further {c : Char} (h : (c.isAlphanum || c == '_') = true) :
    nameChar false c = true := by
  simp only [Char.isAlphanum, Bool.or_eq_true] at h
  rcases h with (h | h) | h
  · simp [nameChar, Unicode.isAlphabetic, isAlpha_lt h, h]
  · simp [nameChar, Unicode.isNumeric, isDigit_lt h, h]
  · simp [nameChar, h]

theorem groupName?_further {name : Text} (h : name.all fun d => d.isAlphanum || d == '_')
    (rest : Text) : groupName? false (name ++ '>' :: rest) = some (name, rest) := by
  induction name with
  | nil => rfl
  | cons c name ih =>
      rw [List.all_cons, Bool.and_eq_true] at h
      have hc : (c == '>') = false := by
        rw [beq_eq_false_iff_ne]
        rintro rfl
        exact absurd h.1 (by decide)
      rw [List.cons_append, groupName?, hc, nameChar_further h.1, ih h.2]
      rfl

/-- An identifier is read as the name of a group. -/
theorem Regex.IsGroupName.of_identifier {name : Text} (h : isIdentifier name = true) :
    IsGroupName name := by
  cases name with
  | nil => cases h
  | cons c name =>
      rw [isIdentifier, Bool.and_eq_true] at h
      have hc : (c == '>') = false := by
        rw [beq_eq_false_iff_ne]
        rintro rfl
        exact absurd h.1 (by decide)
      refine ⟨List.cons_ne_nil c name, fun rest => ?_⟩
      rw [List.cons_append, groupName?, hc, nameChar_start h.1, groupName?_further h.2]
      rfl

theorem Placeholder.Readable.legible {p : Placeholder} (hp : p.Readable) : p.Legible :=
  ⟨.of_identifier hp.name, hp.fragment⟩

/-! ## Literals -/

theorem next?_plain {c : Char} (hc : c ∉ metaChars) (rest : Text) :
    Token.next? false c rest = some (.char c false, rest) := by
  unfold Token.next?
  split
  case h_13 => rfl
  all_goals exact absurd (by decide) hc

theorem escapable_metaChars : ∀ c ∈ metaChars, escapable c = true :=
  List.all_eq_true.1 (by decide)

theorem next?_escaped {c : Char} (hc : c ∈ metaChars) (rest : Text) :
    Token.next? false '\\' (c :: rest) = some (.char c false, rest) := by
  have h : escape? false (c :: rest) = some (.char c false, rest) := by
    unfold escape?
    exact if_pos (escapable_metaChars c hc)
  exact h

/-- A placeholder is read as a group around the tokens of its expression. -/
theorem Placeholder.reads_regex {p : Placeholder} {toks : List Token} (hname : IsGroupName p.name)
    (h : Reads p.kind.fragment toks []) (more : Text) :
    Reads (p.regex ++ more) (.openGroup (some p.name) :: (toks ++ [.closeGroup])) more := by
  have hopen := hname.next? (p.kind.fragment ++ ')' :: more)
  have hclose : Reads (')' :: more) [.closeGroup] more := .cons rfl .nil
  rw [regex_append]
  exact .cons hopen ((h.append_close more).append hclose)

/-- A literal text is read as its characters. -/
theorem reads_escape (literal more : Text) :
    Reads (Template.escape literal ++ more) (literal.map (Token.char · false)) more := by
  induction literal with
  | nil => exact .nil
  | cons c literal ih =>
      rw [Template.escape, List.flatMap_cons, ← Template.escape, List.append_assoc, List.map_cons]
      by_cases hc : c ∈ metaChars
      · rw [if_pos (by simpa using hc)]
        exact .cons (next?_escaped hc _) ih
      · rw [if_neg (by simpa using hc)]
        exact .cons (next?_plain hc _) ih

/-! ## Rows of parts -/

/-- What was read in the innermost group is some expressions more, with the placeholders `ps` among them. -/
structure Adds (r : Reading) (es : List Expr) (ps : List Placeholder) (s : Reading) : Prop where
  /-- The groups around are as they were. -/
  outer : s.outer = r.outer
  /-- The innermost group holds some items more. -/
  level : ∃ items, s.level = { r.level with items := items ++ r.level.items } ∧
    items.map Item.expr = es.reverse
  /-- Names stay given. -/
  names : r.names ⊆ s.names
  /-- The names of the placeholders are given. -/
  given : ∀ p ∈ ps, p.name ∈ s.names
  /-- They and the names in the bodies were not given before. -/
  fresh : ∀ p ∈ ps, ∀ n ∈ r.names, n ∉ p.names
  /-- They do not come again further on. -/
  distinct : Placeholder.Distinct ps

/-- Tokens that always add the same expressions, as long as flags are as at the start. -/
structure Yields (toks : List Token) (es : List Expr) (ps : List Placeholder) : Prop where
  /-- They do not switch `extended` on. -/
  blanks : ∀ tok ∈ toks, tok.switchesExtended = false
  /-- They add the expressions if they are taken. -/
  steps : ∀ {r s : Reading}, r.level.flags = {} → r.Named → r.steps? toks = some s → Adds r es ps s

namespace Adds

variable {r s u : Reading} {es fs : List Expr} {ps qs : List Placeholder}

theorem refl (r : Reading) : Adds r [] [] r where
  outer := rfl
  level := ⟨[], rfl, rfl⟩
  names := List.Subset.refl _
  given := by simp
  fresh := by simp
  distinct := .nil

theorem flags (h : Adds r es ps s) : s.level.flags = r.level.flags := by
  obtain ⟨items, hlevel, -⟩ := h.level
  rw [hlevel]

theorem trans (h : Adds r es ps s) (h' : Adds s fs qs u) : Adds r (es ++ fs) (ps ++ qs) u where
  outer := h'.outer.trans h.outer
  level := by
    obtain ⟨items, hlevel, hitems⟩ := h.level
    obtain ⟨items', hlevel', hitems'⟩ := h'.level
    refine ⟨items' ++ items, ?_, ?_⟩
    · rw [hlevel', hlevel, List.append_assoc]
    · rw [List.map_append, hitems, hitems', List.reverse_append]
  names := List.Subset.trans h.names h'.names
  given := by
    intro p hp
    rcases List.mem_append.1 hp with hp | hp
    · exact h'.names (h.given p hp)
    · exact h'.given p hp
  fresh := by
    intro p hp n hn
    rcases List.mem_append.1 hp with hp | hp
    · exact h.fresh p hp n hn
    · exact h'.fresh p hp n (h.names hn)
  distinct := by
    refine List.pairwise_append.2 ⟨h.distinct, h'.distinct, ?_⟩
    exact fun p hp q hq => h'.fresh q hq p.name (h.given p hp)

end Adds

namespace Yields

variable {toks toks' : List Token} {es fs : List Expr} {ps qs : List Placeholder}

theorem nil : Yields [] [] [] where
  blanks := by simp
  steps := by
    rintro r s - - h
    cases h
    exact .refl r

theorem append (h : Yields toks es ps) (h' : Yields toks' fs qs) :
    Yields (toks ++ toks') (es ++ fs) (ps ++ qs) where
  blanks := by
    intro tok htok
    rcases List.mem_append.1 htok with htok | htok
    · exact h.blanks tok htok
    · exact h'.blanks tok htok
  steps := by
    intro r u hflags hr hsteps
    rw [Reading.steps?_append] at hsteps
    obtain ⟨s, hs, hu⟩ := Option.bind_eq_some_iff.1 hsteps
    have hadds := h.steps hflags hr hs
    exact hadds.trans (h'.steps (hadds.flags.trans hflags) (hr.steps? hs) hu)

theorem char (c : Char) : Yields [.char c false] [.char c] [] where
  blanks := by simp [Token.switchesExtended]
  steps := by
    intro r s hflags hr hsteps
    have hstep : r.step? (.char c false) = some (r.push (.char c) 0 true) := by
      rw [Reading.step?, hflags]
      rfl
    rw [Reading.steps?, List.foldlM_cons, hstep] at hsteps
    cases hsteps
    exact
      { outer := rfl
        level := ⟨[⟨.char c, 0, true⟩], rfl, rfl⟩
        names := List.Subset.refl _
        given := by simp
        fresh := by simp
        distinct := .nil }

theorem literal : ∀ t : Text, Yields (t.map (Token.char · false)) (t.map Expr.char) []
  | [] => .nil
  | c :: t => (char c).append (literal t)

/-- The tokens of a placeholder add its group. -/
theorem placeholder {p : Placeholder} {toks : List Token} {whole : Reading}
    (hblanks : ∀ tok ∈ toks, tok.switchesExtended = false)
    (hwhole : Reading.steps? {} toks = some whole) (hclosed : whole.outer = [])
    (hbody : p.kind.body = whole.level.content.expr) :
    Yields (.openGroup (some p.name) :: (toks ++ [.closeGroup])) [p.expr] [p] where
  blanks := by
    intro tok htok
    simp only [List.mem_cons, List.mem_append, List.not_mem_nil, or_false] at htok
    rcases htok with rfl | htok | rfl
    · rfl
    · exact hblanks tok htok
    · rfl
  steps := by
    intro r s hflags hr hsteps
    obtain ⟨depth, given, hnames, hnodup, rfl⟩ := Reading.steps?_group hflags hr hwhole hclosed hsteps
    rw [← hbody] at hnames ⊢
    rw [List.nodup_append] at hnodup
    obtain ⟨-, hcons, hapart⟩ := hnodup
    exact
      { outer := rfl
        level := ⟨[⟨p.expr, depth, true⟩], rfl, rfl⟩
        names := fun n hn => List.mem_append_right _ (List.mem_cons_of_mem _ hn)
        given := by simp
        fresh := by
          intro q hq n hn hmem
          rw [List.mem_singleton.1 hq] at hmem
          rcases List.mem_cons.1 hmem with rfl | hmem
          · exact (List.nodup_cons.1 hcons).1 hn
          · exact hapart n (hnames hmem) n (List.mem_cons_of_mem _ hn) rfl
        distinct := List.pairwise_singleton _ _ }

end Yields

/-! ## Templates -/

namespace Template

/-- The expressions of a segment: the group of a placeholder, otherwise the characters. -/
def segmentExprs (seg : Text) : List Expr :=
  match Placeholder.ofSegment? seg with
  | some p => [p.expr]
  | none => seg.map Expr.char

/-- The expressions of segments with a slash between each two. -/
def rowExprs : List Text → List Expr
  | [] => []
  | [seg] => segmentExprs seg
  | seg :: next :: segs => segmentExprs seg ++ .char '/' :: rowExprs (next :: segs)

theorem exists_yields_segment {seg : Text}
    (hread : ∀ p ∈ [seg].filterMap Placeholder.ofSegment?, p.Legible) (more : Text) :
    ∃ toks, Reads (segmentRegex seg ++ more) toks more ∧
      Yields toks (segmentExprs seg) ([seg].filterMap Placeholder.ofSegment?) := by
  unfold segmentRegex segmentExprs
  cases hseg : Placeholder.ofSegment? seg with
  | none =>
      rw [List.filterMap_cons_none hseg]
      exact ⟨_, reads_escape seg more, .literal seg⟩
  | some p =>
      rw [List.filterMap_cons_some hseg] at hread ⊢
      have hp := hread p List.mem_cons_self
      obtain ⟨e, he⟩ := Option.isSome_iff_exists.1 hp.fragment.valid
      obtain ⟨toks, whole, hreads, hblanks, hwhole, hclosed, rfl⟩ := hp.fragment.exists_steps he
      have hbody : p.kind.body = whole.level.content.expr := by rw [Kind.body, he, Option.getD_some]
      exact ⟨_, Placeholder.reads_regex hp.name hreads more, .placeholder hblanks hwhole hclosed hbody⟩

theorem exists_yields_row (more : Text) : ∀ {segs : List Text}, segs ≠ [] →
    (∀ p ∈ segs.filterMap Placeholder.ofSegment?, p.Legible) →
    ∃ toks, Reads (Text.join '/' (segs.map segmentRegex) ++ more) toks more ∧
      Yields toks (rowExprs segs) (segs.filterMap Placeholder.ofSegment?)
  | [], hne, _ => absurd rfl hne
  | [seg], _, hread => by
      rw [List.map_singleton, Text.join_singleton, rowExprs]
      exact exists_yields_segment hread more
  | seg :: next :: segs, _, hread => by
      have hsplit : (seg :: next :: segs).filterMap Placeholder.ofSegment? =
          [seg].filterMap Placeholder.ofSegment? ++
            ([] ++ (next :: segs).filterMap Placeholder.ofSegment?) := by
        rw [List.nil_append, ← List.filterMap_append]
        rfl
      rw [← List.singleton_append, List.filterMap_append, List.forall_mem_append] at hread
      obtain ⟨toks', hreads', hyields'⟩ :=
        exists_yields_row more (List.cons_ne_nil next segs) hread.2
      obtain ⟨toks, hreads, hyields⟩ := exists_yields_segment hread.1
        ('/' :: (Text.join '/' ((next :: segs).map segmentRegex) ++ more))
      refine ⟨toks ++ (.char '/' false :: toks'), ?_, ?_⟩
      · rw [List.map_cons, Text.join_cons _ _ (by simp), List.append_assoc, List.cons_append]
        exact hreads.append (.cons rfl hreads')
      · rw [rowExprs, hsplit]
        exact hyields.append ((Yields.char '/').append hyields')

/-- A template whose placeholders are legible. -/
def Legible (t : Template) : Prop := ∀ p ∈ placeholders t, p.Legible

/-- A template whose placeholders are readable. -/
def Readable (t : Template) : Prop := ∀ p ∈ placeholders t, p.Readable

theorem Readable.legible {t : Template} (ht : Readable t) : Legible t := fun p hp => (ht p hp).legible

/-- Without an expression that the template gives itself, identifiers for names are enough. -/
theorem Readable.of_identifiers {t : Template}
    (ht : ∀ p ∈ placeholders t, isIdentifier p.name = true ∧ p.kind.isRaw = false) : Readable t :=
  fun p hp => ⟨(ht p hp).1, Kind.standalone (ht p hp).2⟩

/-- Only an expression that a template gives itself can fail to be one by itself. -/
theorem Readable.of_raw {t : Template} (ht : ∀ p ∈ placeholders t, isIdentifier p.name = true ∧
    ∀ expr, p.kind = .raw expr → Expr.Standalone expr) : Readable t := by
  intro p hp
  refine ⟨(ht p hp).1, ?_⟩
  cases hkind : p.kind with
  | raw expr => exact (ht p hp).2 expr hkind
  | _ => exact Kind.standalone rfl

/-- The expressions of a template. -/
def exprs (t : Template) : List Expr := rowExprs (segments t)

/-- The tokens of a template's expression, between the start and the end of the text and in a group. -/
def anchoredTokens (toks : List Token) : List Token := .caret :: .openFlags [] :: (toks ++ [.closeGroup, .dollar])

/-- The group that a whole template stands in, with the start of the text before it. -/
def anchoredStart : Reading := ⟨{}, [Level.push {} ⟨.anchor .textStart, 0, true⟩], []⟩

theorem reads_anchoredRegex {t : Template} {toks : List Token}
    (h : Reads (Text.join '/' ((segments t).map segmentRegex) ++ ")$".toList) toks ")$".toList) :
    Reads (anchoredRegex t) (anchoredTokens toks) [] := by
  rw [anchoredRegex, regex_eq, List.append_assoc]
  exact .cons rfl (.cons rfl (h.append (.cons rfl (.cons rfl .nil))))

theorem blanks_anchoredTokens {toks : List Token} (h : ∀ tok ∈ toks, tok.switchesExtended = false) :
    ∀ tok ∈ anchoredTokens toks, tok.switchesExtended = false := by
  simp only [anchoredTokens, List.forall_mem_cons, List.forall_mem_append]
  exact ⟨rfl, rfl, h, rfl, rfl, by simp⟩

theorem steps?_anchoredTokens (toks : List Token) : Reading.steps? {} (anchoredTokens toks) =
    (anchoredStart.steps? toks).bind (·.steps? [.closeGroup, .dollar]) :=
  Reading.steps?_append _ _ _

/-- An expression between the start and the end of the text. -/
def anchored (e : Expr) : Expr := Expr.concat [.anchor .textStart, e, .anchor .textEnd]

theorem way_anchored (is : List Item) : (anchored (Item.seq is).expr).way =
    (Link.test .textStart).comp
      ((Expr.waysInRow (is.map Item.expr)).comp (Link.test .textEnd)) := by
  rw [anchored, Expr.way_concat, Expr.waysInRow, Expr.waysInRow, Expr.waysInRow_singleton, Item.way_seq,
    Expr.way, Expr.way]

theorem kept_anchored {Q : Expr → Prop} (hQ : Expr.Kept Q) (hanchor : ∀ a, Q (.anchor a)) {is : List Item}
    (h : ∀ f ∈ is.map Item.expr, Q f) : Q (anchored (Item.seq is).expr) := by
  have hbody : Q (Item.seq is).expr := Item.seq_kept hQ fun i hi => h i.expr (List.mem_map_of_mem hi)
  refine hQ.concat fun f hf => ?_
  simp only [List.mem_cons, List.not_mem_nil, or_false] at hf
  rcases hf with rfl | rfl | rfl
  · exact hanchor _
  · exact hbody
  · exact hanchor _

/-- The expression of a template is the row of its parts between the start and the end of the text, and no
placeholder of it has its name twice. -/
theorem Legible.exists_anchored {t : Template} (ht : Legible t) {e : Expr}
    (he : Expr.ofText? (anchoredRegex t) = some e) :
    Placeholder.Distinct (placeholders t) ∧
      ∃ items, items.map Item.expr = exprs t ∧ e = anchored (Item.seq items).expr := by
  obtain ⟨toks, hreads, hyields⟩ := exists_yields_row ")$".toList (segments_ne_nil t) ht
  obtain ⟨r, hsteps, -, rfl⟩ := Expr.exists_steps_of_reads (reads_anchoredRegex hreads)
    (blanks_anchoredTokens hyields.blanks) he
  rw [steps?_anchoredTokens] at hsteps
  obtain ⟨u, hu, hend⟩ := Option.bind_eq_some_iff.1 hsteps
  have hstart : Reading.steps? {} [.caret, .openFlags []] = some anchoredStart := rfl
  have hadds := hyields.steps rfl (Reading.named_empty.steps? hstart) hu
  obtain ⟨items, hlevel, hitems⟩ := hadds.level
  obtain ⟨level, outer, names⟩ := u
  cases hadds.outer
  cases hlevel
  cases hend
  refine ⟨hadds.distinct, (items ++ []).reverse, ?_, rfl⟩
  rw [List.map_reverse, List.append_nil, hitems, List.reverse_reverse, exprs]

/-- The ways through the expression of a template are those of its parts, and it keeps what all parts have. -/
theorem Legible.ofText?_anchoredRegex {t : Template} (ht : Legible t) {e : Expr}
    (he : Expr.ofText? (anchoredRegex t) = some e) :
    Placeholder.Distinct (placeholders t) ∧
      e.way = (Link.test .textStart).comp
        ((Expr.waysInRow (exprs t)).comp (Link.test .textEnd)) ∧
      ∀ {Q : Expr → Prop}, Expr.Kept Q → (∀ a, Q (.anchor a)) → (∀ f ∈ exprs t, Q f) → Q e := by
  obtain ⟨hdistinct, items, hitems, rfl⟩ := ht.exists_anchored he
  rw [← hitems]
  exact ⟨hdistinct, way_anchored _, fun {Q} hQ hanchor h => kept_anchored (Q := Q) hQ hanchor h⟩

/-! ## Its groups -/

theorem outerGroups_chars (t : Text) : Expr.outerGroupsOfRow (t.map Expr.char) = [] := by
  induction t with
  | nil => rfl
  | cons c t ih => exact ih

theorem outerGroups_segmentExprs (seg : Text) : Expr.outerGroupsOfRow (segmentExprs seg) =
    ([seg].filterMap Placeholder.ofSegment?).map fun p => (some p.name, p.kind.body) := by
  unfold segmentExprs
  cases hseg : Placeholder.ofSegment? seg with
  | none =>
      rw [List.filterMap_cons_none hseg]
      exact outerGroups_chars seg
  | some p =>
      rw [List.filterMap_cons_some hseg]
      rfl

theorem outerGroups_rowExprs : ∀ segs : List Text, Expr.outerGroupsOfRow (rowExprs segs) =
    (segs.filterMap Placeholder.ofSegment?).map fun p => (some p.name, p.kind.body)
  | [] => rfl
  | [seg] => outerGroups_segmentExprs seg
  | seg :: next :: segs => by
      have hslash : Expr.outerGroupsOfRow (.char '/' :: rowExprs (next :: segs)) =
          ((next :: segs).filterMap Placeholder.ofSegment?).map fun p => (some p.name, p.kind.body) :=
        outerGroups_rowExprs (next :: segs)
      rw [rowExprs, Expr.outerGroupsOfRow_append, outerGroups_segmentExprs, hslash, ← List.map_append,
        ← List.filterMap_append]
      rfl

/-- The outermost groups of the expression of a template are those of its placeholders, in their order: each
under its name, around the expression of its kind. -/
theorem Legible.outerGroups_of_ofText? {t : Template} (ht : Legible t) {e : Expr}
    (he : Expr.ofText? (anchoredRegex t) = some e) :
    e.outerGroups = (placeholders t).map fun p => (some p.name, p.kind.body) := by
  obtain ⟨-, items, hitems, rfl⟩ := ht.exists_anchored he
  rw [anchored, Expr.outerGroups_concat, Expr.outerGroupsOfRow, Expr.outerGroupsOfRow,
    Expr.outerGroupsOfRow_singleton, Item.outerGroups_seq, hitems, exprs, outerGroups_rowExprs]
  exact List.append_nil _

/-- Identifiers for names are enough for this. -/
theorem ofText?_anchoredRegex {t : Template} (ht : Readable t) {e : Expr}
    (he : Expr.ofText? (anchoredRegex t) = some e) :
    Placeholder.Distinct (placeholders t) ∧
      e.way = (Link.test .textStart).comp
        ((Expr.waysInRow (exprs t)).comp (Link.test .textEnd)) ∧
      ∀ {Q : Expr → Prop}, Expr.Kept Q → (∀ a, Q (.anchor a)) → (∀ f ∈ exprs t, Q f) → Q e :=
  ht.legible.ofText?_anchoredRegex he

end Template

end Signpost
