import Signpost.Proofs.Regex.Group
import Signpost.Proofs.Regex.GroupName

/-!
# Rows of tokens that are taken

A text that is a row of tokens is read to its end if its tokens are taken one after another and none of them
switches `extended` on (`readTokens_of_steps?`).  The fuel is enough if there are no more tokens than characters.

*In a group.*  What is taken by itself is taken in a named group too, as long as none of its names was given
before (`Reading.Inside.exists_step?`), so the group is read as one item that nests one deeper
(`Reading.steps?_group_of_fresh`).

*Nesting.*  Items in sequence nest at most one deeper than the deepest of them (`Item.depth_seq_le`).
-/

namespace Signpost.Regex

/-! ## Reading to the end -/

/-- The row of tokens that a text is has as many tokens as fuel was needed. -/
theorem length_le_of_tokens? {fuel : Nat} {t : Text} {toks : List Token} (h : tokens? fuel t = some toks) :
    toks.length ≤ fuel := by
  induction fuel generalizing t toks with
  | zero =>
      cases t <;> cases h
      exact Nat.le_refl 0
  | succ fuel ih =>
      cases t with
      | nil =>
          cases h
          exact Nat.zero_le _
      | cons c t =>
          obtain ⟨⟨tok, rest⟩, -, h⟩ := Option.bind_eq_some_iff.1 h
          obtain ⟨toks', hrest, h⟩ := Option.bind_eq_some_iff.1 h
          cases h
          exact Nat.succ_le_succ (ih hrest)

/-- A row of tokens that are taken is read to its end. -/
theorem readTokens_of_steps? {r s : Reading} {t : Text} {toks : List Token} {fuel : Nat} (h : Reads t toks [])
    (hr : r.BlanksCount) (htoks : ∀ tok ∈ toks, tok.switchesExtended = false)
    (hsteps : r.steps? toks = some s) (hfuel : toks.length < fuel) : readTokens fuel r t = some s := by
  induction toks generalizing r t fuel with
  | nil =>
      cases h
      cases hsteps
      cases fuel with
      | zero => cases hfuel
      | succ fuel => rw [readTokens, hr.1, skip_false]
  | cons tok toks ih =>
      cases h with
      | cons hnext hrest =>
          rw [List.forall_mem_cons] at htoks
          obtain ⟨r₁, hstep, hsteps⟩ := Option.bind_eq_some_iff.1 hsteps
          cases fuel with
          | zero => cases hfuel
          | succ fuel =>
              rw [readTokens, hr.1, skip_false]
              simp only [hnext, Option.bind_eq_bind, Option.bind_some, hstep]
              exact ih hrest (hr.step? htoks.1 hstep) htoks.2 hsteps (Nat.lt_of_succ_lt_succ hfuel)

/-- A text that is a row of tokens is an expression if they are taken, all groups are closed and nothing nests
too deep. -/
theorem Expr.ofText?_of_steps? {t : Text} {toks : List Token} {r : Reading} (h : Reads t toks [])
    (hlen : toks.length ≤ t.length) (htoks : ∀ tok ∈ toks, tok.switchesExtended = false)
    (hsteps : Reading.steps? {} toks = some r) (houter : r.outer = [])
    (hdepth : r.level.content.depth ≤ nestLimit) : Expr.ofText? t = some r.level.content.expr := by
  rw [Expr.ofText?, readTokens_of_steps? h ⟨rfl, by simp⟩ htoks hsteps (Nat.lt_succ_of_le hlen),
    Option.bind_some, Reading.finish?, houter]
  exact if_pos hdepth

/-! ## In a group -/

namespace Reading

variable {r r' s : Reading} {tok : Token} {toks : List Token} {name : Text} {base : List Level}
  {given : List Text}

theorem names_subset_of_step? (h : r.step? tok = some r') : r.names ⊆ r'.names := by
  rcases step?_names h with hsame | ⟨_, -, hmore⟩
  · rw [hsame]
    exact List.Subset.refl _
  · rw [hmore]
    exact List.subset_cons_self _ _

theorem names_subset_of_steps? (h : r.steps? toks = some r') : r.names ⊆ r'.names := by
  induction toks generalizing r with
  | nil =>
      cases h
      exact List.Subset.refl _
  | cons tok toks ih =>
      obtain ⟨r₁, hstep, h⟩ := Option.bind_eq_some_iff.1 h
      exact List.Subset.trans (names_subset_of_step? hstep) (ih h)

theorem Inside.flags_eq (h : Inside name base given r s) : s.level.flags = r.level.flags := by
  cases h <;> rfl

theorem Inside.names_eq (h : Inside name base given r s) : s.names = r.names ++ given := by
  cases h <;> rfl

theorem Inside.exists_cons_outer (h : Inside name base given r s) (hr : r.outer ≠ []) :
    ∃ around outer, s.outer = around :: outer := by
  refine List.exists_cons_of_ne_nil ?_
  cases h with
  | whole => exact absurd rfl hr
  | above => simp

theorem Inside.exists_repeat? (h : Inside name base given r s) {min : Nat} {max : Option Nat} {plain : Bool}
    {l : Level} (hl : r.level.repeat? min max plain = some l) :
    ∃ l', s.level.repeat? min max plain = some l' := by
  cases h with
  | whole => exact ⟨l.under name, by rw [Level.under_repeat?, hl]; rfl⟩
  | above => exact ⟨l, hl⟩

/-- A token that is taken is taken in a group too, if it gives no name that was given before. -/
theorem Inside.exists_step? (h : Inside name base given r s) (hr : r.step? tok = some r')
    (hfresh : ∀ n ∈ r'.names, n ∉ given) : ∃ s', s.step? tok = some s' := by
  cases tok with
  | char | dot | set =>
      obtain ⟨e, he, -⟩ := Option.map_eq_some_iff.1 hr
      exact ⟨_, Option.map_eq_some_iff.2 ⟨e, h.flags_eq ▸ he, rfl⟩⟩
  | caret | dollar | textEdge | wordSide | openFlags | bar | setFlags => exact ⟨_, rfl⟩
  | rep =>
      obtain ⟨l, hl, -⟩ := Option.map_eq_some_iff.1 hr
      obtain ⟨l', hl'⟩ := h.exists_repeat? hl
      exact ⟨_, Option.map_eq_some_iff.2 ⟨l', hl', rfl⟩⟩
  | openGroup inner =>
      cases inner with
      | none => exact ⟨_, rfl⟩
      | some inner =>
          simp only [Reading.step?] at hr ⊢
          split at hr
          · cases hr
          · next hnew =>
              cases hr
              have hgiven : inner ∉ given := hfresh inner List.mem_cons_self
              have hnot : inner ∉ s.names := by
                rw [h.names_eq, List.mem_append, not_or]
                exact ⟨by simpa using hnew, hgiven⟩
              rw [if_neg (by simpa using hnot)]
              exact ⟨_, rfl⟩
  | closeGroup =>
      simp only [Reading.step?] at hr ⊢
      split at hr
      · cases hr
      · next houter =>
          obtain ⟨_, _, hcons⟩ := h.exists_cons_outer (by rw [houter]; exact List.cons_ne_nil _ _)
          rw [hcons]
          exact ⟨_, rfl⟩

theorem Inside.exists_steps? (h : Inside name base given r s) (hr : r.steps? toks = some r')
    (hfresh : ∀ n ∈ r'.names, n ∉ given) :
    ∃ s', s.steps? toks = some s' ∧ Inside name base given r' s' := by
  induction toks generalizing r s with
  | nil =>
      cases hr
      exact ⟨s, rfl, h⟩
  | cons tok toks ih =>
      obtain ⟨r₁, hr₁, hr⟩ := Option.bind_eq_some_iff.1 hr
      obtain ⟨s₁, hs₁⟩ := h.exists_step? hr₁ fun n hn => hfresh n (names_subset_of_steps? hr hn)
      obtain ⟨s', hs', hinside⟩ := ih (h.step? hr₁ hs₁) hr
      refine ⟨s', ?_, hinside⟩
      rw [Reading.steps?, List.foldlM_cons, hs₁]
      exact hs'

/-- A row of tokens that is an expression by itself is taken in a named group, if neither its names nor the name
of the group were given before. -/
theorem steps?_group_of_fresh {whole : Reading} (hflags : r.level.flags = {})
    (hwhole : Reading.steps? {} toks = some whole) (hclosed : whole.outer = [])
    (hname : name ∉ r.names) (hfresh : ∀ n ∈ whole.names, n ∉ name :: r.names) :
    r.steps? (.openGroup (some name) :: (toks ++ [.closeGroup])) =
      some ⟨r.level.push ⟨.group (some name) whole.level.content.expr, 1 + whole.level.content.depth, true⟩,
        r.outer, whole.names ++ name :: r.names⟩ := by
  have hopen : r.step? (.openGroup (some name)) = some
      ⟨Level.under name {}, r.level :: r.outer, name :: r.names⟩ := by
    simp only [Reading.step?, hflags]
    rw [if_neg (by simpa using hname)]
    rfl
  have hstart : Inside name (r.level :: r.outer) (name :: r.names) {}
      ⟨Level.under name {}, r.level :: r.outer, name :: r.names⟩ := .whole
  obtain ⟨s, hs, hinside⟩ := hstart.exists_steps? hwhole hfresh
  rw [hinside.eq_of_closed hclosed] at hs
  rw [steps?, List.foldlM_cons, hopen]
  refine (steps?_append _ toks [.closeGroup]).trans ?_
  rw [hs]
  rfl

end Reading

/-! ## Nesting -/

theorem foldl_max_le {n : Nat} : ∀ {ds : List Nat} {d : Nat}, d ≤ n → (∀ e ∈ ds, e ≤ n) →
    ds.foldl max d ≤ n
  | [], _, hd, _ => hd
  | e :: ds, d, hd, hds => by
      rw [List.forall_mem_cons] at hds
      rw [List.foldl_cons]
      exact foldl_max_le (Nat.max_le.2 ⟨hd, hds.1⟩) hds.2

/-- Items in sequence nest at most one deeper than each of them. -/
theorem Item.depth_seq_le {n : Nat} {is : List Item} (h : ∀ i ∈ is, i.depth ≤ n) :
    (Item.seq is).depth ≤ n + 1 := by
  unfold Item.seq
  split
  · exact Nat.zero_le _
  · exact Nat.le_succ_of_le (h _ List.mem_cons_self)
  · rw [Nat.add_comm n 1]
    exact Nat.add_le_add_left (foldl_max_le (Nat.zero_le n) (by simpa using h)) 1

end Signpost.Regex
