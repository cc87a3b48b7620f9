import Signpost.Proofs.Regex.Language
import Signpost.Proofs.Regex.Names

/-!
# Linear programs

A program is *linear* if its only splits are loops over one character, numbered in the order in which
they stand (`Prog.Linear`).  The ways through such a program can be listed in order of preference
(`Prog.ends`), and the list has all of them (`Prog.mem_ends`).

*Searches.*  A search of a linear program finds the first way of the list (`Prog.search?_eq`).  The splits
that it has passed do not keep it from that way: a split is passed a second time only after everything
that follows it has failed.  `AnswersAt` is the invariant behind this.  It says what a continuation answers
as long as the splits still to come are marked only where they are dead, and that an unsuccessful
continuation marks dead splits only.  Splits to come are told from those passed by their numbers.
-/

namespace Signpost.Regex

/-! ## Places of a text -/

theorem Spot.Takes.eq_of_length {x y z : Spot} {s t : Text} (hy : x.Takes s y) (hz : x.Takes t z)
    (h : y.rest.length = z.rest.length) : y = z := by
  induction hy generalizing t with
  | nil =>
      cases hz with
      | nil => rfl
      | cons hz =>
          have hlen := congrArg List.length hz.rest_eq
          simp only [List.length_append, List.length_cons] at hlen h
          omega
  | cons hy ih =>
      cases hz with
      | nil =>
          have hlen := congrArg List.length hy.rest_eq
          simp only [List.length_append, List.length_cons] at hlen h
          omega
      | cons hz => exact ih hz h

/-- A place of a text. -/
def Spot.On (w : Text) (x : Spot) : Prop := ∃ taken, (Spot.start w).Takes taken x

theorem Spot.On.eq_of_length {w : Text} {x y : Spot} (hx : x.On w) (hy : y.On w)
    (h : x.rest.length = y.rest.length) : x = y := by
  obtain ⟨s, hs⟩ := hx
  obtain ⟨t, ht⟩ := hy
  exact hs.eq_of_length ht h

theorem Spot.On.takes {w taken : Text} {x y : Spot} (hx : x.On w) (h : x.Takes taken y) :
    y.On w := by
  obtain ⟨s, hs⟩ := hx
  exact ⟨s ++ taken, hs.append h⟩

/-! ## Ways in order -/

namespace Prog

/-- Programs whose splits are loops over one character; these have the numbers from the first one to the
one before the second. -/
inductive Linear : Nat → Prog → Nat → Prop where
  | empty {n : Nat} : Linear n .empty n
  | chars {n : Nat} {s : CharSet} : Linear n (.chars s) n
  | anchor {n : Nat} {a : Anchor} : Linear n (.anchor a) n
  | named {m n : Nat} {name : Text} {p : Prog} : Linear m p n → Linear m (.named name p) n
  | cat {l m n : Nat} {p q : Prog} : Linear l p m → Linear m q n → Linear l (.cat p q) n
  | plus {n : Nat} {greedy : Bool} {s : CharSet} : Linear n (.plus n greedy (.chars s)) (n + 1)

/-- The places after any number of characters of a set, in order of preference. -/
def spread (s : CharSet) (greedy : Bool) : Option Char → Text → List Spot
  | before, [] => [⟨before, []⟩]
  | before, c :: rest =>
    if s.has c.toNat then
      if greedy then spread s greedy (some c) rest ++ [⟨before, c :: rest⟩]
      else ⟨before, c :: rest⟩ :: spread s greedy (some c) rest
    else [⟨before, c :: rest⟩]

/-- The place after one character of a set, if there is one. -/
def stepEnds (s : CharSet) (x : Spot) : List Spot :=
  match x.rest with
  | c :: rest => if s.has c.toNat then [⟨some c, rest⟩] else []
  | [] => []

/-- The ways through a linear program from a place, in order of preference. -/
def ends : Prog → Spot → List (Spot × Captures)
  | empty, x => [(x, [])]
  | chars s, x => (stepEnds s x).map (·, [])
  | anchor a, x => if a.holds x.before x.rest.head? then [(x, [])] else []
  | named name p, x => (p.ends x).map fun (y, cs) => (y, (name, x.span y) :: cs)
  | cat p q, x => (p.ends x).flatMap fun (y, cs) => (q.ends y).map fun (z, ds) => (z, ds ++ cs)
  | plus _ greedy (chars s), x =>
    (stepEnds s x).flatMap fun y => (spread s greedy y.before y.rest).map (·, [])
  | _, _ => []

theorem mem_stepEnds {s : CharSet} {x y : Spot} :
    y ∈ stepEnds s x ↔ ∃ c, s.has c.toNat ∧ x.Takes [c] y := by
  obtain ⟨before, rest⟩ := x
  cases rest with
  | nil =>
      constructor
      · intro h
        cases h
      · intro hway
        obtain ⟨c, -, h⟩ := hway
        cases h
  | cons c rest =>
      simp only [stepEnds]
      constructor
      · intro h
        split at h
        · next hc =>
            cases List.mem_singleton.1 h
            exact ⟨c, hc, .cons .nil⟩
        · cases h
      · intro hway
        obtain ⟨d, hd, h⟩ := hway
        cases h with
        | cons h =>
            cases h
            rw [if_pos hd]
            exact List.mem_singleton.2 rfl

theorem mem_spread {s : CharSet} {greedy : Bool} {y : Spot} :
    ∀ {rest : Text} {before : Option Char}, y ∈ spread s greedy before rest ↔
      ∃ taken, (∀ c ∈ taken, s.has c.toNat) ∧ Spot.Takes ⟨before, rest⟩ taken y
  | [], before => by
      simp only [spread, List.mem_singleton]
      constructor
      · rintro rfl
        exact ⟨[], by simp, .nil⟩
      · intro hway
        obtain ⟨taken, -, h⟩ := hway
        cases h
        rfl
  | c :: rest, before => by
      have hunfold : y ∈ spread s greedy before (c :: rest) ↔
          y = ⟨before, c :: rest⟩ ∨ s.has c.toNat ∧ y ∈ spread s greedy (some c) rest := by
        rw [spread]
        cases s.has c.toNat <;> cases greedy <;> simp [or_comm]
      rw [hunfold, mem_spread]
      constructor
      · rintro (rfl | ⟨hc, taken, hall, h⟩)
        · exact ⟨[], by simp, .nil⟩
        · exact ⟨c :: taken, by simpa using ⟨hc, hall⟩, .cons h⟩
      · intro hway
        obtain ⟨taken, hall, h⟩ := hway
        cases h with
        | nil => exact .inl rfl
        | cons h =>
            exact .inr ⟨hall c (by simp), _, fun d hd => hall d (by simp [hd]), h⟩

/-- The list of ways through a linear program has all of them. -/
theorem mem_ends {m n : Nat} {p : Prog} (hp : Linear m p n) {x y : Spot} {cs : Captures} :
    (y, cs) ∈ p.ends x ↔ p.way x y cs := by
  induction hp generalizing x y cs with
  | empty => simp [ends, way, Link.skip]
  | chars =>
      simp only [ends, way, Link.char, List.mem_map, Prod.mk.injEq, mem_stepEnds]
      constructor
      · intro hway
        obtain ⟨z, ⟨c, hc, h⟩, rfl, rfl⟩ := hway
        exact ⟨c, hc, h, rfl⟩
      · intro hway
        obtain ⟨c, hc, h, rfl⟩ := hway
        exact ⟨y, ⟨c, hc, h⟩, rfl, rfl⟩
  | @anchor _ a =>
      simp only [ends, way, Link.test]
      split <;> simp_all
  | named _ ih =>
      simp only [ends, way, Link.capture, List.mem_map, Prod.mk.injEq, Prod.exists, ih]
      constructor
      · intro hway
        obtain ⟨z, ds, h, rfl, rfl⟩ := hway
        exact ⟨ds, h, rfl⟩
      · intro hway
        obtain ⟨ds, h, rfl⟩ := hway
        exact ⟨y, ds, h, rfl, rfl⟩
  | cat _ _ ihp ihq =>
      simp only [ends, way, Link.comp, List.mem_flatMap, List.mem_map, Prod.mk.injEq, Prod.exists,
        ihp, ihq]
      constructor
      · intro hway
        obtain ⟨z, ds, hz, w, es, hw, rfl, rfl⟩ := hway
        exact ⟨z, ds, es, hz, hw, rfl⟩
      · intro hway
        obtain ⟨z, ds, es, hz, hw, rfl⟩ := hway
        exact ⟨z, ds, hz, y, es, hw, rfl, rfl⟩
  | plus =>
      simp only [ends, way, List.mem_flatMap, List.mem_map, Prod.mk.injEq, mem_stepEnds, mem_spread,
        Link.comp, Link.many_char, Link.takes]
      constructor
      · intro hway
        obtain ⟨z, ⟨c, hc, hz⟩, w, ⟨taken, hall, hw⟩, rfl, rfl⟩ := hway
        exact ⟨z, [], [], ⟨c, hc, hz, rfl⟩, ⟨taken, hall, hw, rfl⟩, rfl⟩
      · intro hway
        obtain ⟨z, _, _, ⟨c, hc, hz, rfl⟩, ⟨taken, hall, hw, rfl⟩, rfl⟩ := hway
        exact ⟨z, ⟨c, hc, hz⟩, y, ⟨taken, hall, hw⟩, rfl, rfl⟩

end Prog

/-! ## Searches in order -/

/-- Splits and places, these by the number of characters left. -/
abbrev Marks := Nat → Nat → Prop

/-- The splits from `n` on, at places with less than `bound` characters left. -/
def Marks.later (n bound : Nat) : Marks := fun m l => n ≤ m ∧ l < bound

/-- The splits that follow after `n` is passed with `left` characters left: the later ones there, and all
of them at the places after it. -/
def Marks.past (n left : Nat) : Marks := fun m l => Marks.later n (left + 1) m l ∧ ¬(m = n ∧ l = left)

theorem Marks.past_of_place {n left m l : Nat} (h : Marks.later n left m l) : Marks.past n left m l :=
  ⟨⟨h.1, Nat.lt_succ_of_lt h.2⟩, fun heq => Nat.lt_irrefl _ (heq.2 ▸ h.2)⟩

theorem Marks.past_of_split {n left m l : Nat} (h : Marks.later (n + 1) (left + 1) m l) :
    Marks.past n left m l :=
  ⟨⟨Nat.le_of_succ_le h.1, h.2⟩, fun heq => Nat.lt_irrefl _ (heq.1 ▸ h.1)⟩

/-- Of some splits and places, only dead ones are passed. -/
def Visited.Sound (dead some : Marks) (v : Visited) : Prop :=
  ∀ ⦃m l⦄, some m l → v.has m l → dead m l

/-- A split that is just passed need not be dead yet, and is left out. -/
theorem Visited.Sound.mark {dead : Marks} {v : Visited} {n left : Nat}
    (hv : v.Sound dead (.later n (left + 1))) : (v.mark n left).Sound dead (.past n left) := by
  intro m l hml hpassed
  rw [Visited.has_mark, Bool.or_eq_true] at hpassed
  rcases hpassed with hpassed | hpassed
  · exact hv hml.1 hpassed
  · have h := of_decide_eq_true hpassed
    exact absurd ⟨h.1, h.2.1⟩ hml.2

/-- A continuation answers `r` at a thread if of some splits and places only dead ones were passed, and if
it answers nothing, all it passes are such. -/
def AnswersAt (dead some : Marks) (k : Cont) (t : Thread) (r : Option Captures) : Prop :=
  ∀ v : Visited, v.Sound dead some →
    (k t v).1 = r.map (· ++ t.captures) ∧
      (r = none → ∀ m l, (k t v).2.has m l → v.has m l ∨ some m l ∧ dead m l)

namespace AnswersAt

variable {dead here more : Marks} {k k' : Cont} {t : Thread} {r r' : Option Captures}

theorem mono (h : AnswersAt dead here k t r) (hsub : ∀ m l, here m l → more m l) :
    AnswersAt dead more k t r := by
  intro v hv
  obtain ⟨hr, hmarks⟩ := h v fun m l hml => hv (hsub m l hml)
  refine ⟨hr, fun hnone m l hml => ?_⟩
  rcases hmarks hnone m l hml with hml | ⟨hm, hml⟩
  · exact .inl hml
  · exact .inr ⟨hsub m l hm, hml⟩

theorem congr {dead' : Marks} (h : AnswersAt dead here k t r)
    (hdead : ∀ m l, here m l → (dead' m l ↔ dead m l)) : AnswersAt dead' here k t r := by
  intro v hv
  obtain ⟨hr, hmarks⟩ := h v fun m l hm hml => (hdead m l hm).1 (hv hm hml)
  refine ⟨hr, fun hnone m l hml => ?_⟩
  rcases hmarks hnone m l hml with hml | ⟨hm, hml⟩
  · exact .inl hml
  · exact .inr ⟨hm, (hdead m l hm).2 hml⟩

theorem fail : AnswersAt dead here (fun _ v => (none, v)) t none :=
  fun _ _ => ⟨rfl, fun _ _ _ hml => .inl hml⟩

/-- One continuation and, if it fails, another one. -/
theorem orElse (h : AnswersAt dead here k t r) (h' : AnswersAt dead here k' t r') :
    AnswersAt dead here (fun t v => (k t v).orElse (k' t)) t (r.or r') := by
  intro v hv
  obtain ⟨hr, hmarks⟩ := h v hv
  dsimp only
  generalize k t v = o at hr hmarks ⊢
  obtain ⟨answer, v₁⟩ := o
  cases r with
  | some caps =>
      cases hr
      exact ⟨rfl, fun hnone => by cases hnone⟩
  | none =>
      cases hr
      have hv₁ : v₁.Sound dead here := by
        intro m l hm hml
        rcases hmarks rfl m l hml with hml | ⟨-, hml⟩
        · exact hv hm hml
        · exact hml
      obtain ⟨hr', hmarks'⟩ := h' v₁ hv₁
      refine ⟨hr', fun hnone m l hml => ?_⟩
      rcases hmarks' hnone m l hml with hml | hml
      · exact hmarks rfl m l hml
      · exact .inr hml

/-- A split whose two ways never lead back to it at the same place. -/
theorem fork {n : Nat} {greedy : Bool} (hk : AnswersAt dead (.later n t.left) k t r)
    (hk' : AnswersAt dead (.later (n + 1) (t.left + 1)) k' t r')
    (hdead : dead n t.left ↔ r = none ∧ r' = none) :
    AnswersAt dead (.later n (t.left + 1)) (Regex.fork n greedy k k') t
      (if greedy then r.or r' else r'.or r) := by
  intro v hv
  have hnone : (if greedy then r.or r' else r'.or r) = none ↔ r = none ∧ r' = none := by
    cases greedy <;> simp [Option.or_eq_none_iff, and_comm]
  unfold Regex.fork
  split
  · next hpassed =>
      have hfail := hnone.2 (hdead.1 (hv ⟨Nat.le_refl n, Nat.lt_succ_self _⟩ hpassed))
      rw [hfail]
      exact ⟨rfl, fun _ m l hml => .inl hml⟩
  · have hk₁ := hk.mono fun _ _ => Marks.past_of_place
    have hk₂ := hk'.mono fun _ _ => Marks.past_of_split
    have hmarked : ∀ m l, (v.mark n t.left).has m l ∨ Marks.past n t.left m l ∧ dead m l →
        dead n t.left → v.has m l ∨ Marks.later n (t.left + 1) m l ∧ dead m l := by
      intro m l hml hn
      rcases hml with hml | ⟨hml, hd⟩
      · rw [Visited.has_mark, Bool.or_eq_true] at hml
        rcases hml with hml | hml
        · exact .inl hml
        · obtain ⟨rfl, rfl, -⟩ := of_decide_eq_true hml
          exact .inr ⟨⟨Nat.le_refl _, Nat.lt_succ_self _⟩, hn⟩
      · exact .inr ⟨hml.1, hd⟩
    cases greedy with
    | true =>
        obtain ⟨hr, hmarks⟩ := hk₁.orElse hk₂ _ hv.mark
        exact ⟨hr, fun h m l hml => hmarked m l (hmarks h m l hml) (hdead.2 (hnone.1 h))⟩
    | false =>
        obtain ⟨hr, hmarks⟩ := hk₂.orElse hk₁ _ hv.mark
        exact ⟨hr, fun h m l hml => hmarked m l (hmarks h m l hml) (hdead.2 (hnone.1 h))⟩

end AnswersAt

/-- The first of some ways that a continuation accepts, and what it captures altogether. -/
def firstWay (ways : List (Spot × Captures)) (answer : Spot → Option Captures) : Option Captures :=
  ways.findSome? fun (y, cs) => (answer y).map (· ++ cs)

theorem firstWay_map (spots : List Spot) (answer : Spot → Option Captures) :
    firstWay (spots.map (·, [])) answer = spots.findSome? answer := by
  induction spots with
  | nil => rfl
  | cons y spots ih =>
      have h : (answer y).map (· ++ []) = answer y := by simp
      simp only [firstWay, List.map_cons, List.findSome?_cons, h] at ih ⊢
      rw [ih]

theorem firstWay_append (ways more : List (Spot × Captures)) (answer : Spot → Option Captures) :
    firstWay (ways ++ more) answer = (firstWay ways answer).or (firstWay more answer) := by
  simp only [firstWay, List.findSome?_append]

theorem firstWay_capture (ways : List (Spot × Captures)) (name : Text) (x : Spot)
    (answer : Spot → Option Captures) :
    firstWay (ways.map fun (y, cs) => (y, (name, x.span y) :: cs)) answer =
      firstWay ways fun y => (answer y).map (· ++ [(name, x.span y)]) := by
  induction ways with
  | nil => rfl
  | cons way ways ih =>
      simp only [firstWay, List.map_cons, List.findSome?_cons, Option.map_map] at ih ⊢
      rw [ih]
      cases answer way.1 <;> simp

theorem firstWay_map_append (ways : List (Spot × Captures)) (cs : Captures)
    (answer : Spot → Option Captures) :
    firstWay (ways.map fun (y, ds) => (y, ds ++ cs)) answer = (firstWay ways answer).map (· ++ cs) := by
  induction ways with
  | nil => rfl
  | cons way ways ih =>
      simp only [firstWay, List.map_cons, List.findSome?_cons] at ih ⊢
      rw [ih]
      cases answer way.1 <;> simp

theorem firstWay_flatMap (ways : List (Spot × Captures)) (next : Spot → List (Spot × Captures))
    (answer : Spot → Option Captures) :
    firstWay (ways.flatMap fun (y, cs) => (next y).map fun (z, ds) => (z, ds ++ cs)) answer =
      firstWay ways fun y => firstWay (next y) answer := by
  induction ways with
  | nil => rfl
  | cons way ways ih =>
      obtain ⟨y, cs⟩ := way
      rw [List.flatMap_cons, firstWay_append, ih]
      dsimp only
      rw [firstWay_map_append]
      simp only [firstWay, List.findSome?_cons]
      cases List.findSome? _ (next y) <;> simp

theorem firstWay_flatMap_map (spots : List Spot) (next : Spot → List Spot)
    (answer : Spot → Option Captures) :
    firstWay (spots.flatMap fun y => (next y).map (·, [])) answer =
      spots.findSome? fun y => (next y).findSome? answer := by
  induction spots with
  | nil => rfl
  | cons y spots ih =>
      rw [List.flatMap_cons, firstWay_append, firstWay_map, ih, List.findSome?_cons]
      cases List.findSome? answer (next y) <;> rfl

theorem firstWay_eq_none {ways : List (Spot × Captures)} {answer : Spot → Option Captures} :
    firstWay ways answer = none ↔ ∀ way ∈ ways, answer way.1 = none := by
  simp [firstWay, List.findSome?_eq_none_iff]

/-- What a continuation answers at every place of a text, if splits before `n` are left out of account. -/
def Answers (w : Text) (dead : Marks) (n : Nat) (k : Cont) (answer : Spot → Option Captures) : Prop :=
  ∀ t : Thread, t.spot.On w → AnswersAt dead (.later n (t.left + 1)) k t (answer t.spot)

/-- A continuation that captures the text from a place on before it answers. -/
theorem Answers.capture {w : Text} {dead : Marks} {n : Nat} {k : Cont} {answer : Spot → Option Captures}
    (hk : Answers w dead n k answer) (t : Thread) (name : Text) :
    Answers w dead n (fun u v => k (t.capture name u) v)
      fun y => (answer y).map (· ++ [(name, t.spot.span y)]) := by
  intro u hu v hv
  have hspot : (t.capture name u).spot = u.spot := rfl
  have hcaps : (t.capture name u).captures = (name, t.spot.span u.spot) :: u.captures := by
    simp only [Thread.capture, Spot.span, Thread.spot, t.left_eq, u.left_eq]
  have h := hk (t.capture name u) hu v hv
  rw [hspot, hcaps] at h
  refine ⟨?_, fun hnone => h.2 (Option.map_eq_none_iff.1 hnone)⟩
  rw [h.1, Option.map_map]
  cases answer u.spot <;> simp

namespace Prog

/-- The answers after one character. -/
theorem answersAt_chars {w : Text} {dead : Marks} {n : Nat} {k : Cont}
    {answer : Spot → Option Captures} {t : Thread} {s : CharSet} (ht : t.spot.On w)
    (hk : ∀ u : Thread, u.left < t.left → u.spot.On w →
      AnswersAt dead (.later n (u.left + 1)) k u (answer u.spot)) :
    AnswersAt dead (.later n t.left) ((chars s).run k) t ((stepEnds s t.spot).findSome? answer) := by
  obtain ⟨before, rest, left, captures, left_eq⟩ := t
  cases rest with
  | nil => exact AnswersAt.fail
  | cons c rest =>
      intro v hv
      simp only [Thread.spot, stepEnds, run, Thread.step?]
      cases hc : s.has c.toNat with
      | false => exact ⟨rfl, fun _ _ _ hml => .inl hml⟩
      | true =>
          obtain rfl : left = rest.length + 1 := left_eq
          let u : Thread := ⟨some c, rest, rest.length, captures, rfl⟩
          have hu := hk u (Nat.lt_succ_self _) (ht.takes (.cons .nil)) v hv
          simpa [u, Thread.spot] using hu

/-- The places where a loop may end, after those that one more turn leads to or before them. -/
theorem findSome?_spread (s : CharSet) (greedy : Bool) (answer : Spot → Option Captures) (x : Spot) :
    (spread s greedy x.before x.rest).findSome? answer =
      let again := (stepEnds s x).findSome? fun y => (spread s greedy y.before y.rest).findSome? answer
      if greedy then again.or (answer x) else (answer x).or again := by
  obtain ⟨before, rest⟩ := x
  cases rest with
  | nil => cases greedy <;> simp [spread, stepEnds]
  | cons c rest =>
      cases hc : s.has c.toNat with
      | false => cases greedy <;> simp [spread, stepEnds, hc]
      | true =>
          cases greedy with
          | false =>
              simp only [spread, stepEnds, hc, if_true, Bool.false_eq_true, if_false,
                List.findSome?_cons, List.findSome?_nil]
              cases answer ⟨before, c :: rest⟩ <;> simp
              cases List.findSome? answer _ <;> rfl
          | true =>
              simp only [spread, stepEnds, hc, if_true, List.findSome?_append, List.findSome?_cons,
                List.findSome?_nil]
              cases List.findSome? answer _ <;> cases answer _ <;> rfl

/-- The answers of a loop over one character, as long as its fuel lasts. -/
theorem answersAt_loop {w : Text} {dead : Marks} {n : Nat} {k : Cont}
    {answer : Spot → Option Captures} {s : CharSet} {greedy : Bool}
    (hk : Answers w dead (n + 1) k answer)
    (hdead : ∀ x : Spot, x.On w →
      (dead n x.rest.length ↔ (spread s greedy x.before x.rest).findSome? answer = none)) :
    ∀ (fuel : Nat) (t : Thread), t.left < fuel → t.spot.On w →
      AnswersAt dead (.later n (t.left + 1)) (loop n greedy (chars s).run k fuel) t
        ((spread s greedy t.before t.rest).findSome? answer)
  | 0, _, hlt, _ => absurd hlt (Nat.not_lt_zero _)
  | fuel + 1, t, hlt, ht => by
      have hagain : AnswersAt dead (.later n t.left)
          ((chars s).run (loop n greedy (chars s).run k fuel)) t
          ((stepEnds s t.spot).findSome? fun x => (spread s greedy x.before x.rest).findSome? answer) :=
        answersAt_chars ht fun u hu hw =>
          answersAt_loop hk hdead fuel u (Nat.lt_of_lt_of_le hu (Nat.le_of_lt_succ hlt)) hw
      have hspread := findSome?_spread s greedy answer t.spot
      have hleft : t.left = t.spot.rest.length := t.left_eq
      have hnone : dead n t.left ↔
          ((stepEnds s t.spot).findSome? fun x =>
            (spread s greedy x.before x.rest).findSome? answer) = none ∧ answer t.spot = none := by
        rw [hleft, hdead t.spot ht, hspread]
        cases greedy <;> simp [Option.or_eq_none_iff, and_comm, Thread.spot]
      dsimp only [Thread.spot] at hspread
      rw [hspread]
      exact hagain.fork (hk t ht) hnone

/-- The dead splits once a loop over one character is put before a program: the loop is dead where none of
the places it may end at is accepted. -/
def deadLoop (w : Text) (dead : Marks) (ok : Spot → Prop) (n : Nat) (greedy : Bool) (s : CharSet) : Marks :=
  fun i l =>
    if i = n then ∀ x : Spot, x.On w → x.rest.length = l →
      ∀ y ∈ spread s greedy x.before x.rest, ¬ok y
    else dead i l

theorem deadLoop_of_lt (w : Text) (dead : Marks) (ok : Spot → Prop) (n : Nat) (greedy : Bool) (s : CharSet) :
    ∀ i l, n + 1 ≤ i → (deadLoop w dead ok n greedy s i l ↔ dead i l) := by
  intro i l hi
  have hne : i ≠ n := by omega
  simp only [deadLoop, if_neg hne]

theorem deadLoop_self {w : Text} {dead : Marks} {ok : Spot → Prop} {n : Nat} {greedy : Bool} {s : CharSet}
    {x : Spot} (hx : x.On w) : deadLoop w dead ok n greedy s n x.rest.length ↔
      ∀ y ∈ spread s greedy x.before x.rest, ¬ok y := by
  simp only [deadLoop, if_true]
  constructor
  · exact fun h => h x hx rfl
  · intro h y hy hlen
    rw [hy.eq_of_length hx hlen]
    exact h

theorem Linear.le {m n : Nat} {p : Prog} (hp : Linear m p n) : m ≤ n := by
  induction hp with
  | named _ ih => exact ih
  | cat _ _ ihp ihq => exact Nat.le_trans ihp ihq
  | plus => exact Nat.le_succ _
  | _ => exact Nat.le_refl _

/-- Running a linear program answers with its first way that the continuation accepts.  Which splits are
dead depends on where the continuation accepts, and not on what it captures there. -/
theorem Linear.answers {m n : Nat} {p : Prog} (hp : Linear m p n) (w : Text) (ok : Spot → Prop)
    (dead : Marks) : ∃ dead' : Marks, (∀ i l, n ≤ i → (dead' i l ↔ dead i l)) ∧
      ∀ k answer, (∀ x, answer x = none ↔ ¬ok x) → Answers w dead n k answer →
        Answers w dead' m (p.run k) fun x => firstWay (p.ends x) answer := by
  induction hp generalizing ok dead with
  | empty =>
      refine ⟨dead, fun _ _ _ => Iff.rfl, fun k answer _ hk t ht => ?_⟩
      have h : firstWay (ends .empty t.spot) answer = answer t.spot := by simp [firstWay, ends]
      dsimp only
      rw [h]
      exact hk t ht
  | chars =>
      refine ⟨dead, fun _ _ _ => Iff.rfl, fun k answer _ hk t ht => ?_⟩
      dsimp only
      rw [ends, firstWay_map]
      exact (answersAt_chars ht fun u _ hu => hk u hu).mono fun _ _ h =>
        ⟨h.1, Nat.lt_succ_of_lt h.2⟩
  | @anchor _ a =>
      refine ⟨dead, fun _ _ _ => Iff.rfl, fun k answer _ hk t ht v hv => ?_⟩
      by_cases h : a.holds t.before t.rest.head?
      · simpa [ends, run, firstWay, Thread.spot, h] using hk t ht v hv
      · simpa [ends, run, firstWay, Thread.spot, h] using fun m l hml => .inl hml
  | @named m n name p _ ih =>
      obtain ⟨dead', hagree, hrun⟩ := ih ok dead
      refine ⟨dead', hagree, fun k answer hok hk t ht => ?_⟩
      have h := hrun _ _ (fun y => by rw [Option.map_eq_none_iff, hok]) (hk.capture t name) t ht
      dsimp only
      rw [ends, firstWay_capture]
      exact h
  | @cat _ _ _ p q hp hq ihp ihq =>
      obtain ⟨dead₁, hagree₁, hrun₁⟩ := ihq ok dead
      obtain ⟨dead₂, hagree₂, hrun₂⟩ := ihp (fun y => ∃ way ∈ q.ends y, ok way.1) dead₁
      refine ⟨dead₂, fun i l hi => ?_, fun k answer hok hk t ht => ?_⟩
      · exact (hagree₂ i l (Nat.le_trans hq.le hi)).trans (hagree₁ i l hi)
      · have hq' := hrun₁ k answer hok hk
        have h := hrun₂ (q.run k) _ (fun y => by simp [firstWay_eq_none, hok]) hq' t ht
        dsimp only
        rw [ends, firstWay_flatMap]
        exact h
  | @plus n greedy s =>
      have hagree := deadLoop_of_lt w dead ok n greedy s
      refine ⟨deadLoop w dead ok n greedy s, hagree, fun k answer hok hk t ht => ?_⟩
      have hk' : Answers w (deadLoop w dead ok n greedy s) (n + 1) k answer := fun u hu =>
        (hk u hu).congr fun i l hil => hagree i l hil.1
      have hdead : ∀ x : Spot, x.On w → (deadLoop w dead ok n greedy s n x.rest.length ↔
          (spread s greedy x.before x.rest).findSome? answer = none) := by
        intro x hx
        rw [deadLoop_self hx, List.findSome?_eq_none_iff]
        simp only [hok]
      have h : AnswersAt (deadLoop w dead ok n greedy s) (.later n t.left)
          ((Prog.chars s).run (loop n greedy (Prog.chars s).run k (t.left + 2))) t
          ((stepEnds s t.spot).findSome? fun x => (spread s greedy x.before x.rest).findSome? answer) :=
        answersAt_chars ht fun u hu hw => answersAt_loop hk' hdead (t.left + 2) u (by omega) hw
      dsimp only
      rw [ends, firstWay_flatMap_map]
      exact h.mono fun _ _ h => ⟨h.1, Nat.lt_succ_of_lt h.2⟩

/-- A search of a linear program finds the first way from the start of the text, if there is one. -/
theorem search?_eq {m n : Nat} {p : Prog} (hp : Linear m p n) {w : Text} {way : Spot × Captures}
    {ways : List (Spot × Captures)} (h : p.ends (.start w) = way :: ways) :
    p.search? w = some way.2 := by
  obtain ⟨dead, -, hrun⟩ := hp.answers w (fun _ => True) fun _ _ => True
  have haccept : Answers w (fun _ _ => True) n accept fun _ => some [] := fun t _ v _ => ⟨rfl, nofun⟩
  let t : Thread := ⟨none, w, w.length, [], rfl⟩
  have hsound : (Visited.fresh w.length).Sound dead (.later m (t.left + 1)) := by
    intro i l _ hmark
    rw [Visited.has_fresh] at hmark
    cases hmark
  have hfirst := (hrun accept _ (by simp) haccept t ⟨[], .nil⟩ _ hsound).1
  have hway : firstWay (p.ends t.spot) (fun _ => some []) = some way.2 := by
    have hspot : t.spot = .start w := rfl
    simp [hspot, h, firstWay]
  dsimp only at hfirst
  rw [hway] at hfirst
  rw [search?, seek]
  generalize run p accept _ _ = o at hfirst ⊢
  obtain ⟨answer, v⟩ := o
  cases hfirst
  simp [t]

/-- A linear program that has a way from the start of a text is found to match. -/
theorem exists_search?_of_way {m n : Nat} {p : Prog} (hp : Linear m p n) {w : Text} {y : Spot}
    {cs : Captures} (h : p.way (.start w) y cs) : ∃ caps, p.search? w = some caps := by
  have hmem := (mem_ends hp).2 h
  cases hends : p.ends (.start w) with
  | nil =>
      rw [hends] at hmem
      cases hmem
  | cons way ways => exact ⟨way.2, search?_eq hp hends⟩

end Prog

/-! ## Linear expressions -/

namespace Expr

/-- Expressions without choices but for loops over one character. -/
inductive Linear : Expr → Prop where
  | empty : Linear .empty
  | literal {t : Text} : Linear (.literal t)
  | set {narrow : Bool} {s : CharSet} : Linear (.set narrow s)
  | anchor {a : Anchor} : Linear (.anchor a)
  | group {name : Option Text} {e : Expr} : Linear e → Linear (.group name e)
  | seq {es : List Expr} : (∀ e ∈ es, Linear e) → Linear (.seq es)
  | loop {greedy narrow : Bool} {s : CharSet} : Linear (.rep 1 none greedy (.set narrow s))
  | copies {n : Nat} {greedy narrow : Bool} {s : CharSet} :
      Linear (.rep n (some n) greedy (.set narrow s))

theorem linear_kept : Kept Linear where
  empty := .empty
  literal _ := .literal
  seq es := by
    constructor
    · intro h
      cases h with
      | seq hes => exact hes
    · exact .seq

end Expr

namespace Prog

theorem linear_text : ∀ (t : Text) (n : Nat), Linear n (text t) n
  | [], _ => .empty
  | [_], _ => .chars
  | _ :: d :: t, n => .cat .chars (linear_text (d :: t) n)

theorem linear_copies {b : Numbering} (hb : ∀ next, Linear next (b next).1 (b next).2) :
    ∀ n next, Linear next (copies b n next).1 (copies b n next).2
  | 0, _ => .empty
  | n + 1, next => .cat (hb next) (linear_copies hb n _)

theorem linear_ofSeq {es : List Expr}
    (hes : ∀ e ∈ es, ∀ next, Linear next (ofExpr e next).1 (ofExpr e next).2) :
    ∀ next, Linear next (ofSeq es next).1 (ofSeq es next).2 := by
  induction es with
  | nil =>
      intro next
      rw [ofSeq]
      exact .empty
  | cons e es ih =>
      intro next
      rw [ofSeq]
      exact .cat (hes e List.mem_cons_self next)
        (ih (fun f hf => hes f (List.mem_cons_of_mem _ hf)) _)

/-- A number of copies is followed by no option. -/
theorem ofExpr_copies (n : Nat) (greedy narrow : Bool) (s : CharSet) (next : Nat) :
    ofExpr (.rep n (some n) greedy (.set narrow s)) next =
      both (copies (ofExpr (.set narrow s)) n) (options greedy (ofExpr (.set narrow s)) 0) next := by
  rw [ofExpr, repeated, Nat.sub_self]

/-- The program of a linear expression is linear. -/
theorem linear_ofExpr {e : Expr} (he : e.Linear) :
    ∀ next, Linear next (ofExpr e next).1 (ofExpr e next).2 := by
  induction he with
  | empty =>
      intro next
      rw [ofExpr]
      exact .empty
  | literal =>
      intro next
      rw [ofExpr]
      exact linear_text _ next
  | set =>
      intro next
      rw [ofExpr]
      exact .chars
  | anchor =>
      intro next
      rw [ofExpr]
      exact .anchor
  | @group name e _ ih =>
      intro next
      cases name with
      | none =>
          rw [ofExpr]
          exact ih next
      | some name =>
          rw [ofExpr]
          exact .named (ih next)
  | seq _ ih =>
      intro next
      rw [ofExpr]
      exact linear_ofSeq ih next
  | loop =>
      intro next
      rw [ofExpr, repeated, atLeastOne]
      simp only [ofExpr]
      exact .plus
  | @copies n greedy narrow s =>
      intro next
      have hset : ∀ next, Linear next (ofExpr (.set narrow s) next).1
          (ofExpr (.set narrow s) next).2 := by
        intro next
        rw [ofExpr]
        exact .chars
      rw [ofExpr_copies]
      exact .cat (linear_copies hset n next) .empty

end Prog

end Signpost.Regex
