import Signpost.Proofs.Regex.Link

/-!
# Ways through a program

A program read as a link (`Prog.way`) says which ways lead through it, without order and without a
search.  A search takes such a way: what it captures is what some way from some place of the text
captures (`Prog.search?_sound`).  This holds for all programs, loops over bodies that match the empty
text included, since the splits that a search has passed only keep it from trying ways.
-/

namespace Signpost.Regex

/-- The place of a thread. -/
def Thread.spot (t : Thread) : Spot := ⟨t.before, t.rest⟩

namespace Prog

/-- The ways through a program. -/
def way : Prog → Link
  | empty => .skip
  | chars s => .char s
  | anchor a => .test a
  | named name p => p.way.capture name
  | cat p q => p.way.comp q.way
  | alt _ p q => p.way.either q.way
  | opt _ _ p => p.way.either .skip
  | star _ _ p => p.way.many
  | plus _ _ p => p.way.comp p.way.many

/-! ## Searches take ways -/

theorem orElse_some {o : Outcome} {next : Visited → Outcome} {caps : Captures}
    (h : (o.orElse next).1 = some caps) : o.1 = some caps ∨ (next o.2).1 = some caps := by
  obtain ⟨_ | found, v⟩ := o
  · exact .inr h
  · exact .inl h

/-- A split succeeds by one of its two ways. -/
theorem fork_some {split : Nat} {greedy : Bool} {again stop : Cont} {t : Thread} {v : Visited}
    {caps : Captures} (h : (fork split greedy again stop t v).1 = some caps) :
    ∃ v', (again t v').1 = some caps ∨ (stop t v').1 = some caps := by
  unfold fork at h
  split at h
  · cases h
  · cases greedy with
    | true =>
        rcases orElse_some h with h | h
        · exact ⟨_, .inl h⟩
        · exact ⟨_, .inr h⟩
    | false =>
        rcases orElse_some h with h | h
        · exact ⟨_, .inr h⟩
        · exact ⟨_, .inl h⟩

/-- A continuation takes the thread over a link before it succeeds as another one does. -/
def Follows (R : Link) (run : Cont → Cont) : Prop :=
  ∀ ⦃k : Cont⦄ ⦃t : Thread⦄ ⦃v : Visited⦄ ⦃caps : Captures⦄, (run k t v).1 = some caps →
    ∃ u v' cs, R t.spot u.spot cs ∧ u.captures = cs ++ t.captures ∧ (k u v').1 = some caps

theorem Follows.loop {R : Link} {body : Cont → Cont} (hbody : Follows R body) (split : Nat)
    (greedy : Bool) : ∀ fuel, Follows R.many fun k => loop split greedy body k fuel
  | 0 => fun _ _ _ _ h => by cases h
  | fuel + 1 => by
      intro k t v caps h
      obtain ⟨v', h | h⟩ := fork_some h
      · obtain ⟨u, v₁, cs, hR, hu, h⟩ := hbody h
        obtain ⟨w, v₂, ds, ⟨n, hn⟩, hw, h⟩ := Follows.loop hbody split greedy fuel h
        exact ⟨w, v₂, ds ++ cs, ⟨n + 1, u.spot, cs, ds, hR, hn, rfl⟩,
          by rw [hw, hu, List.append_assoc], h⟩
      · exact ⟨t, v', [], ⟨0, rfl, rfl⟩, rfl, h⟩

theorem Follows.chars (s : CharSet) : Follows (.char s) (Prog.chars s).run := by
  intro k t v caps h
  obtain ⟨before, rest, left, captures, left_eq⟩ := t
  cases rest with
  | nil => cases h
  | cons c rest =>
      simp only [Prog.run, Thread.step?] at h
      cases hc : s.has c.toNat with
      | false => simp [hc] at h
      | true =>
          simp only [hc, if_true] at h
          exact ⟨_, v, [], ⟨c, hc, .cons .nil, rfl⟩, rfl, h⟩

/-- Running a program takes one of its ways. -/
theorem follows_run (p : Prog) : Follows p.way p.run := by
  induction p with
  | empty => exact fun k t v caps h => ⟨t, v, [], ⟨rfl, rfl⟩, rfl, h⟩
  | chars s => exact .chars s
  | anchor a =>
      intro k t v caps h
      simp only [run] at h
      split at h
      · next holds => exact ⟨t, v, [], ⟨holds, rfl, rfl⟩, rfl, h⟩
      · cases h
  | named name p ih =>
      intro k t v caps h
      obtain ⟨u, v', cs, hp, hu, h⟩ := ih h
      refine ⟨t.capture name u, v', (name, t.spot.span u.spot) :: cs, ⟨cs, hp, rfl⟩, ?_, h⟩
      simp only [Thread.capture, Spot.span, Thread.spot, hu, t.left_eq, u.left_eq, List.cons_append]
  | cat p q ihp ihq =>
      intro k t v caps h
      obtain ⟨u, v₁, cs, hp, hu, h⟩ := ihp h
      obtain ⟨w, v₂, ds, hq, hw, h⟩ := ihq h
      exact ⟨w, v₂, ds ++ cs, ⟨u.spot, cs, ds, hp, hq, rfl⟩,
        by rw [hw, hu, List.append_assoc], h⟩
  | alt split p q ihp ihq =>
      intro k t v caps h
      obtain ⟨v', h | h⟩ := fork_some h
      · obtain ⟨u, v₁, cs, hp, hu, h⟩ := ihp h
        exact ⟨u, v₁, cs, .inl hp, hu, h⟩
      · obtain ⟨u, v₁, cs, hq, hu, h⟩ := ihq h
        exact ⟨u, v₁, cs, .inr hq, hu, h⟩
  | opt split greedy p ih =>
      intro k t v caps h
      obtain ⟨v', h | h⟩ := fork_some h
      · obtain ⟨u, v₁, cs, hp, hu, h⟩ := ih h
        exact ⟨u, v₁, cs, .inl hp, hu, h⟩
      · exact ⟨t, v', [], .inr ⟨rfl, rfl⟩, rfl, h⟩
  | star split greedy p ih => exact fun k t v caps h => Follows.loop ih split greedy _ h
  | plus split greedy p ih =>
      intro k t v caps h
      obtain ⟨u, v₁, cs, hp, hu, h⟩ := ih h
      obtain ⟨w, v₂, ds, hmany, hw, h⟩ := Follows.loop ih split greedy _ h
      exact ⟨w, v₂, ds ++ cs, ⟨u.spot, cs, ds, hp, hmany, rfl⟩,
        by rw [hw, hu, List.append_assoc], h⟩

/-- What seeking captures is captured on a way through the program, from the start or from further on. -/
theorem seek_some (p : Prog) {caps : Captures} : ∀ {rest : Text} {before : Option Char} {left : Nat}
    {h : left = rest.length} {v : Visited}, seek (p.run accept) before left rest h v = some caps →
      ∃ skipped x y, Spot.Takes ⟨before, rest⟩ skipped x ∧ p.way x y caps
  | rest, before, left, h, v, hseek => by
      unfold seek at hseek
      split at hseek
      · next found v' hrun =>
          cases hseek
          have hsome : (p.run accept ⟨before, rest, left, [], h⟩ v).1 = some caps := by rw [hrun]
          obtain ⟨u, v₁, cs, hp, hu, hacc⟩ := p.follows_run hsome
          have hcaps : u.captures = caps := Option.some.inj hacc
          rw [← hcaps, hu, List.append_nil]
          exact ⟨[], _, _, .nil, hp⟩
      · cases rest with
        | nil => cases hseek
        | cons c rest =>
            obtain ⟨skipped, x, y, hx, hp⟩ := seek_some p hseek
            exact ⟨c :: skipped, x, y, .cons hx, hp⟩

/-- What a search captures is captured on a way through the program, from some place of the text. -/
theorem search?_sound {p : Prog} {t : Text} {caps : Captures} (h : p.search? t = some caps) :
    ∃ skipped x y, (Spot.start t).Takes skipped x ∧ p.way x y caps :=
  seek_some p h

end Prog

end Signpost.Regex
