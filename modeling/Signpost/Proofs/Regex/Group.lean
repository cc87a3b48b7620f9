import Signpost.Proofs.Regex.Names
import Signpost.Proofs.Regex.Row

/-!
# Expressions put in groups

An expression that is complete by itself stays whole when its text is put in a named group: it becomes
the body of that group and of nothing else (`Reading.steps?_group`).  The bars and closing parentheses in
it belong to groups it opened itself, so reading never goes below the level of the group, and what is
read there is what is read of the text alone (`Reading.Inside`).

*Names.*  A name is given once in a whole expression.  So the names in the body are neither the name of
the group nor names given before (`Reading.Named`).
-/

namespace Signpost.Regex

/-- A text that is an expression by itself, read without the flag `extended`. -/
structure Expr.Standalone (t : Text) : Prop where
  /-- It is an expression. -/
  valid : (Expr.ofText? t).isSome
  /-- None of its tokens switches `extended` on. -/
  blanks : ∀ toks rest, Reads t toks rest → ∀ tok ∈ toks, tok.switchesExtended = false

/-- Whether a text is an expression by itself can be computed. -/
theorem Expr.Standalone.of_tokens? {t : Text} (hvalid : (Expr.ofText? t).isSome) (fuel : Nat)
    (h : (tokens? fuel t).any (·.all (!·.switchesExtended)) = true) : Expr.Standalone t where
  valid := hvalid
  blanks := by
    intro toks rest hreads tok htok
    cases hall : tokens? fuel t with
    | none =>
        rw [hall] at h
        cases h
    | some all =>
        have hmem := hreads.subset_of_complete (reads_of_tokens? hall) htok
        rw [hall, Option.any_some, List.all_eq_true] at h
        simpa using h tok hmem

/-- An expression by itself is a row of tokens, all of which are taken from an empty reading. -/
theorem Expr.Standalone.exists_steps {t : Text} (ht : Expr.Standalone t) {e : Expr}
    (he : Expr.ofText? t = some e) : ∃ toks r, Reads t toks [] ∧
      (∀ tok ∈ toks, tok.switchesExtended = false) ∧ Reading.steps? {} toks = some r ∧
      r.outer = [] ∧ e = r.level.content.expr := by
  obtain ⟨r, hread, hfinish⟩ := Option.bind_eq_some_iff.1 he
  obtain ⟨toks, hreads, hsteps⟩ := exists_reads ⟨rfl, by simp⟩ hread ht.blanks
  exact ⟨toks, r, hreads, ht.blanks toks [] hreads, hsteps, Reading.eq_of_finish? hfinish⟩

/-! ## Items in sequence -/

theorem Item.seq_kept {Q : Expr → Prop} (hQ : Expr.Kept Q) {is : List Item}
    (h : ∀ i ∈ is, Q i.expr) : Q (Item.seq is).expr := by
  unfold Item.seq
  split
  · exact hQ.empty
  · exact h _ List.mem_cons_self
  · exact hQ.concat (by simpa using h)

/-- The ways through items in sequence are those of their expressions in a row. -/
theorem Item.way_seq (is : List Item) :
    (Item.seq is).expr.way = Expr.waysInRow (is.map Item.expr) := by
  unfold Item.seq
  split
  · rw [Expr.way, List.map_nil, Expr.waysInRow]
  · rw [List.map_singleton, Expr.waysInRow_singleton]
  · exact Expr.way_concat _

theorem Item.outerGroups_seq (is : List Item) :
    (Item.seq is).expr.outerGroups = Expr.outerGroupsOfRow (is.map Item.expr) := by
  unfold Item.seq
  split
  · rfl
  · rw [List.map_singleton, Expr.outerGroupsOfRow_singleton]
  · exact Expr.outerGroups_concat _

/-! ## Names given -/

/-- What a group holds captures under names that were given. -/
structure Level.NamesIn (given : List Text) (l : Level) : Prop where
  /-- The items of the alternative being read do. -/
  items : ∀ i ∈ l.items, i.expr.names ⊆ given
  /-- The alternatives read do. -/
  branches : ∀ i ∈ l.branches, i.expr.names ⊆ given
  /-- The name of the group was given. -/
  name : ∀ name, l.name = some name → name ∈ given

namespace Level.NamesIn

variable {given more : List Text} {l : Level}

theorem mono (h : l.NamesIn given) (hsub : given ⊆ more) : l.NamesIn more where
  items i hi := List.Subset.trans (h.items i hi) hsub
  branches i hi := List.Subset.trans (h.branches i hi) hsub
  name n hn := hsub (h.name n hn)

theorem push (h : l.NamesIn given) {i : Item} (hi : i.expr.names ⊆ given) :
    (l.push i).NamesIn given where
  items := by
    intro j hj
    rcases List.mem_cons.1 hj with rfl | hj
    · exact hi
    · exact h.items j hj
  branches := h.branches
  name := h.name

theorem seq {is : List Item} (h : ∀ i ∈ is, i.expr.names ⊆ given) :
    (Item.seq is).expr.names ⊆ given :=
  Item.seq_kept (Expr.names_kept given) h

theorem choice {is : List Item} (h : ∀ i ∈ is, i.expr.names ⊆ given) :
    (Item.choice is).expr.names ⊆ given := by
  unfold Item.choice
  split
  · exact (Expr.names_kept given).empty
  · exact h _ List.mem_cons_self
  · exact (Expr.names_kept given).choose (Expr.names_set given) (Expr.names_choice given)
      (by simpa using h)

theorem bar (h : l.NamesIn given) : l.bar.NamesIn given where
  items := by simp [Level.bar]
  branches := by
    intro i hi
    rcases List.mem_cons.1 hi with rfl | hi
    · exact seq (by simpa using h.items)
    · exact h.branches i hi
  name := h.name

theorem content (h : l.NamesIn given) : l.content.expr.names ⊆ given := by
  refine choice fun i hi => ?_
  rcases List.mem_cons.1 (List.mem_reverse.1 hi) with rfl | hi
  · exact seq (by simpa using h.items)
  · exact h.branches i hi

theorem close (h : l.NamesIn given) : l.close.expr.names ⊆ given := by
  unfold Level.close
  dsimp only
  split
  · cases hname : l.name with
    | none =>
        rw [Expr.names]
        exact h.content
    | some n =>
        rw [Expr.names]
        exact List.cons_subset.2 ⟨h.name n hname, h.content⟩
  · exact h.content

theorem repeat? (h : l.NamesIn given) {l' : Level} {min : Nat} {max : Option Nat} {plain : Bool}
    (hl : l.repeat? min max plain = some l') : l'.NamesIn given := by
  unfold Level.repeat? at hl
  split at hl
  · next i rest hitems =>
      split at hl
      · cases hl
        have hrest : ∀ j ∈ i :: rest, j.expr.names ⊆ given := hitems ▸ h.items
        refine ⟨?_, h.branches, h.name⟩
        intro j hj
        rcases List.mem_cons.1 hj with rfl | hj
        · exact Expr.names_repeated (hrest i List.mem_cons_self) _ _ _
        · exact hrest j (List.mem_cons_of_mem _ hj)
      · cases hl
  · cases hl

end Level.NamesIn

theorem Flags.names_ofSet (f : Flags) (s : CharSet) (given : List Text) :
    (f.ofSet s).names ⊆ given :=
  (Expr.names_kept given).ofSet (Expr.names_set given) _ s

theorem Flags.names_literal? {f : Flags} {c : Char} {byte : Bool} {e : Expr} {given : List Text}
    (h : f.literal? c byte = some e) : e.names ⊆ given := by
  unfold Flags.literal? at h
  split at h
  · cases h
  · split at h
    · cases h
      exact f.names_ofSet _ given
    · cases h
      exact (Expr.names_kept given).literal _

theorem Flags.names_dot? {f : Flags} {e : Expr} {given : List Text} (h : f.dot? = some e) :
    e.names ⊆ given := by
  unfold Flags.dot? at h
  split at h
  · cases h
  · split at h
    · cases h
      exact f.names_ofSet _ given
    · split at h
      · cases h
        exact f.names_ofSet _ given
      · cases h
        exact f.names_ofSet _ given

namespace Reading

/-- No name was given twice, and what was read captures under names that were given. -/
structure Named (r : Reading) : Prop where
  /-- No name was given twice. -/
  nodup : r.names.Nodup
  /-- What every open group holds captures under names that were given. -/
  levels : ∀ l ∈ r.level :: r.outer, l.NamesIn r.names

variable {r r' s s' : Reading} {tok : Token} {toks : List Token}

theorem named_empty : Named {} where
  nodup := List.nodup_nil
  levels := by
    intro l hl
    cases List.mem_singleton.1 hl
    exact ⟨by simp, by simp, by simp⟩

theorem Named.push (hr : r.Named) {e : Expr} (he : e.names ⊆ r.names) (depth : Nat)
    (repeatable : Bool) : (r.push e depth repeatable).Named where
  nodup := hr.nodup
  levels := by
    intro l hl
    rcases List.mem_cons.1 hl with rfl | hl
    · exact (hr.levels _ List.mem_cons_self).push he
    · exact hr.levels l (List.mem_cons_of_mem _ hl)

theorem Named.level (hr : r.Named) {l : Level} (hl : l.NamesIn r.names) :
    Named { r with level := l } where
  nodup := hr.nodup
  levels := by
    intro m hm
    rcases List.mem_cons.1 hm with rfl | hm
    · exact hl
    · exact hr.levels m (List.mem_cons_of_mem _ hm)

/-- One more group is open. -/
theorem Named.open (hr : r.Named) {l : Level} {given : List Text} (hgiven : given.Nodup)
    (hsub : r.names ⊆ given) (hl : l.NamesIn given) : Named ⟨l, r.level :: r.outer, given⟩ where
  nodup := hgiven
  levels := by
    intro m hm
    rcases List.mem_cons.1 hm with rfl | hm
    · exact hl
    · exact (hr.levels m hm).mono hsub

theorem Named.step? (hr : r.Named) (h : r.step? tok = some r') : r'.Named := by
  have hanchor (a : Anchor) : (Expr.anchor a).names ⊆ r.names := by simp [Expr.names]
  have hlevel := hr.levels _ List.mem_cons_self
  cases tok with
  | char c byte =>
      obtain ⟨e, he, rfl⟩ := Option.map_eq_some_iff.1 h
      exact hr.push (Flags.names_literal? he) _ _
  | dot =>
      obtain ⟨e, he, rfl⟩ := Option.map_eq_some_iff.1 h
      exact hr.push (Flags.names_dot? he) _ _
  | set b =>
      obtain ⟨s, -, rfl⟩ := Option.map_eq_some_iff.1 h
      exact hr.push (Flags.names_ofSet _ s _) _ _
  | caret | dollar | textEdge | wordSide =>
      cases h
      exact hr.push (hanchor _) _ _
  | rep min max plain =>
      obtain ⟨l, hl, rfl⟩ := Option.map_eq_some_iff.1 h
      exact hr.level (hlevel.repeat? hl)
  | openGroup name =>
      cases name with
      | none =>
          cases h
          exact hr.open hr.nodup (List.Subset.refl _) ⟨by simp, by simp, by simp⟩
      | some name =>
          simp only [Reading.step?] at h
          split at h
          · cases h
          · next hname =>
              cases h
              exact hr.open (List.nodup_cons.2 ⟨by simpa using hname, hr.nodup⟩)
                (List.subset_cons_self _ _) ⟨by simp, by simp, by simp⟩
  | openFlags changes =>
      cases h
      exact hr.open hr.nodup (List.Subset.refl _) ⟨by simp, by simp, by simp⟩
  | closeGroup =>
      simp only [Reading.step?] at h
      split at h
      · cases h
      · next around outer heq =>
          cases h
          have houter : ∀ l ∈ around :: outer, l.NamesIn r.names := fun l hl =>
            hr.levels l (List.mem_cons_of_mem _ (heq ▸ hl))
          refine ⟨hr.nodup, fun l hl => ?_⟩
          rcases List.mem_cons.1 hl with rfl | hl
          · exact (houter _ List.mem_cons_self).push hlevel.close
          · exact houter l (List.mem_cons_of_mem _ hl)
  | bar =>
      cases h
      exact hr.level hlevel.bar
  | setFlags changes =>
      cases h
      have hpush := hlevel.push (i := ⟨.empty, 0, false⟩) (Expr.names_kept r.names).empty
      exact hr.level ⟨hpush.items, hpush.branches, hpush.name⟩

theorem Named.steps? (hr : r.Named) (h : r.steps? toks = some r') : r'.Named := by
  induction toks generalizing r with
  | nil =>
      cases h
      exact hr
  | cons tok toks ih =>
      obtain ⟨r₁, hstep, h⟩ := Option.bind_eq_some_iff.1 h
      exact ih (hr.step? hstep) h

end Reading

/-! ## Reading in a group -/

/-- A group made to capture under a name. -/
def Level.under (name : Text) (l : Level) : Level := { l with captures := true, name := some name }

theorem Level.under_repeat? (name : Text) (l : Level) (min : Nat) (max : Option Nat) (plain : Bool) :
    (l.under name).repeat? min max plain = (l.repeat? min max plain).map (Level.under name) := by
  simp only [Level.repeat?, Level.under]
  split
  · split <;> rfl
  · rfl

namespace Reading

/-- A reading and the same reading in a group: the group stands in place of the whole, on top of the
groups `base`, and the names `given` were given before. -/
inductive Inside (name : Text) (base : List Level) (given : List Text) : Reading → Reading → Prop where
  /-- No group is open but the whole. -/
  | whole {l : Level} {names : List Text} :
      Inside name base given ⟨l, [], names⟩ ⟨l.under name, base, names ++ given⟩
  /-- Some groups are open. -/
  | above (l whole : Level) (between : List Level) (names : List Text) :
      Inside name base given ⟨l, between ++ [whole], names⟩
        ⟨l, between ++ whole.under name :: base, names ++ given⟩

variable {r r' s s' : Reading} {tok : Token} {toks : List Token} {name : Text} {base : List Level}
  {given : List Text}

/-- A token that is taken both ways leaves a reading and the same reading in a group. -/
theorem Inside.step? (h : Inside name base given r s) (hr : r.step? tok = some r')
    (hs : s.step? tok = some s') : Inside name base given r' s' := by
  cases h with
  | whole =>
      cases tok with
      | char | dot | set =>
          obtain ⟨e, he, rfl⟩ := Option.map_eq_some_iff.1 hr
          obtain ⟨e', he', rfl⟩ := Option.map_eq_some_iff.1 hs
          cases he.symm.trans he'
          exact .whole
      | caret | dollar | textEdge | wordSide | bar | setFlags =>
          cases hr
          cases hs
          exact .whole
      | rep =>
          obtain ⟨l, hl, rfl⟩ := Option.map_eq_some_iff.1 hr
          obtain ⟨l', hl', rfl⟩ := Option.map_eq_some_iff.1 hs
          rw [Level.under_repeat?, hl] at hl'
          cases hl'
          exact .whole
      | openGroup inner =>
          cases inner with
          | none =>
              cases hr
              cases hs
              exact .above _ _ [] _
          | some inner =>
              simp only [Reading.step?] at hr hs
              split at hr <;> cases hr
              split at hs <;> cases hs
              exact .above _ _ [] (inner :: _)
      | openFlags =>
          cases hr
          cases hs
          exact .above _ _ [] _
      | closeGroup => cases hr
  | above l whole between names =>
      cases tok with
      | char | dot | set =>
          obtain ⟨e, he, rfl⟩ := Option.map_eq_some_iff.1 hr
          obtain ⟨e', he', rfl⟩ := Option.map_eq_some_iff.1 hs
          cases he.symm.trans he'
          exact .above _ _ between _
      | caret | dollar | textEdge | wordSide | bar | setFlags =>
          cases hr
          cases hs
          exact .above _ _ between _
      | rep =>
          obtain ⟨l, hl, rfl⟩ := Option.map_eq_some_iff.1 hr
          obtain ⟨l', hl', rfl⟩ := Option.map_eq_some_iff.1 hs
          cases hl.symm.trans hl'
          exact .above _ _ between _
      | openGroup inner =>
          cases inner with
          | none =>
              cases hr
              cases hs
              exact .above _ _ (l :: between) _
          | some inner =>
              simp only [Reading.step?] at hr hs
              split at hr <;> cases hr
              split at hs <;> cases hs
              exact .above _ _ (l :: between) (inner :: _)
      | openFlags =>
          cases hr
          cases hs
          exact .above _ _ (l :: between) _
      | closeGroup =>
          cases between with
          | nil =>
              cases hr
              cases hs
              exact .whole
          | cons around between =>
              cases hr
              cases hs
              exact .above _ _ between _

theorem Inside.steps? (h : Inside name base given r s) (hr : r.steps? toks = some r')
    (hs : s.steps? toks = some s') : Inside name base given r' s' := by
  induction toks generalizing r s with
  | nil =>
      cases hr
      cases hs
      exact h
  | cons tok toks ih =>
      obtain ⟨r₁, hr₁, hr⟩ := Option.bind_eq_some_iff.1 hr
      obtain ⟨s₁, hs₁, hs⟩ := Option.bind_eq_some_iff.1 hs
      exact ih (h.step? hr₁ hs₁) hr hs

theorem Inside.eq_of_closed (h : Inside name base given r s) (hclosed : r.outer = []) :
    s = ⟨r.level.under name, base, r.names ++ given⟩ := by
  cases h with
  | whole => rfl
  | above => simp at hclosed

/-- A row of tokens that is an expression by itself becomes, in a named group, the body of the group. -/
theorem steps?_group {whole : Reading} (hflags : r.level.flags = {}) (hr : r.Named)
    (hwhole : Reading.steps? {} toks = some whole) (hclosed : whole.outer = [])
    (h : r.steps? (.openGroup (some name) :: (toks ++ [.closeGroup])) = some r') :
    ∃ depth given, whole.level.content.expr.names ⊆ given ∧
      (given ++ name :: r.names).Nodup ∧
      r' = ⟨r.level.push ⟨.group (some name) whole.level.content.expr, depth, true⟩, r.outer,
        given ++ name :: r.names⟩ := by
  have hbody := ((named_empty.steps? hwhole).levels _ List.mem_cons_self).content
  have hnodup := (hr.steps? h).nodup
  obtain ⟨s, hopen, h⟩ := Option.bind_eq_some_iff.1 h
  obtain ⟨s', hs', hclose⟩ := Option.bind_eq_some_iff.1 ((steps?_append s toks _).symm.trans h)
  simp only [Reading.step?] at hopen
  split at hopen <;> cases hopen
  have hstart : Inside name (r.level :: r.outer) (name :: r.names) {}
      ⟨{ captures := true, name := some name, flags := r.level.flags }, r.level :: r.outer,
        name :: r.names⟩ := by
    rw [hflags]
    exact .whole
  rw [(hstart.steps? hwhole hs').eq_of_closed hclosed] at hclose
  cases hclose
  exact ⟨_, whole.names, hbody, hnodup, rfl⟩

end Reading

end Signpost.Regex
