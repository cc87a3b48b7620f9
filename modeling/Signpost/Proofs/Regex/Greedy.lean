import Mathlib.Data.List.Lex
import Signpost.Proofs.Regex.Linear

/-!
# Greedy programs

The ways through a linear program are listed in order of preference (`Prog.ends`).  If its only choices are
greedy loops, and each of them is all that is captured under a name, this order is told by what is captured:
of two ways, the first one has captured the longer text where their captures, taken from left to right, first
differ in length (`Prog.Greedy`).

*Parts.*  Between captures stand parts that leave no choice (`Prog.Fixed`).  What is captured is such a part
or a loop over one character, of which the longest run comes first (`Prog.FarFirst`).

*Sequences.*  All ways through a greedy program have the same number of captures.  So two rows of lengths that
differ in the first part of a sequence keep their order whatever follows them (`lex_append_of_length`), and
rows that agree there are in the order of the second part.
-/

namespace Signpost.Regex

/-! ## Rows of lengths -/

/-- The lengths of what is captured, from left to right. -/
def lengths (cs : Captures) : List Nat := cs.reverse.map (·.2.length)

theorem lengths_append (cs ds : Captures) : lengths (cs ++ ds) = lengths ds ++ lengths cs := by
  rw [lengths, List.reverse_append, List.map_append, ← lengths, ← lengths]

theorem length_lengths (cs : Captures) : (lengths cs).length = cs.length := by
  rw [lengths, List.length_map, List.length_reverse]

/-- Rows of one length keep their order with more behind them. -/
theorem lex_append_of_length {ms ns : List Nat} (more more' : List Nat) (h : List.Lex (· < ·) ms ns)
    (hlen : ms.length = ns.length) : List.Lex (· < ·) (ms ++ more) (ns ++ more') := by
  induction h with
  | nil => cases hlen
  | rel h => exact .rel h
  | cons _ ih => exact .cons (ih (Nat.succ.inj hlen))

namespace Prog

/-! ## Parts without a choice -/

/-- From any place there is one way at most, and it goes forwards and captures nothing. -/
def Fixed (p : Prog) : Prop :=
  ∀ x, p.ends x = [] ∨ ∃ y, p.ends x = [(y, [])] ∧ y.rest.length ≤ x.rest.length

theorem Fixed.empty : Fixed .empty := fun x => .inr ⟨x, rfl, Nat.le_refl _⟩

theorem Fixed.anchor (a : Anchor) : Fixed (.anchor a) := by
  intro x
  rw [ends]
  split
  · exact .inr ⟨x, rfl, Nat.le_refl _⟩
  · exact .inl rfl

/-- One character leads to one place at most, and this is further on. -/
theorem stepEnds_cases (s : CharSet) (x : Spot) :
    stepEnds s x = [] ∨ ∃ y, stepEnds s x = [y] ∧ y.rest.length < x.rest.length := by
  obtain ⟨before, rest⟩ := x
  cases rest with
  | nil => exact .inl rfl
  | cons c rest =>
      rw [stepEnds]
      dsimp only
      split
      · exact .inr ⟨_, rfl, Nat.lt_succ_self _⟩
      · exact .inl rfl

theorem Fixed.chars (s : CharSet) : Fixed (.chars s) := by
  intro x
  rw [ends]
  rcases stepEnds_cases s x with h | ⟨y, h, hlt⟩
  · exact .inl (by rw [h]; rfl)
  · exact .inr ⟨y, by rw [h]; rfl, Nat.le_of_lt hlt⟩

theorem Fixed.cat {p q : Prog} (hp : Fixed p) (hq : Fixed q) : Fixed (.cat p q) := by
  intro x
  rcases hp x with h | ⟨y, h, hle⟩
  · exact .inl (by rw [ends, h]; rfl)
  · rcases hq y with h' | ⟨z, h', hle'⟩
    · exact .inl (by simp [ends, h, h'])
    · exact .inr ⟨z, by simp [ends, h, h'], Nat.le_trans hle' hle⟩

theorem Fixed.text : ∀ t : Text, Fixed (text t)
  | [] => .empty
  | [_] => .chars _
  | _ :: d :: t => (Fixed.chars _).cat (Fixed.text (d :: t))

theorem Fixed.copies {b : Numbering} (hb : ∀ next, Fixed (b next).1) : ∀ n next, Fixed (copies b n next).1
  | 0, _ => .empty
  | n + 1, next => (hb next).cat (Fixed.copies hb n _)

/-! ## What is captured -/

/-- The ways capture nothing, and those that go further come first. -/
structure FarFirst (p : Prog) : Prop where
  /-- They capture nothing and go forwards. -/
  bare : ∀ x, ∀ b ∈ p.ends x, b.2 = [] ∧ b.1.rest.length ≤ x.rest.length
  /-- Less is left after a way that comes before another. -/
  ordered : ∀ x, (p.ends x).Pairwise fun a b => a.1.rest.length < b.1.rest.length

theorem Fixed.farFirst {p : Prog} (hp : Fixed p) : FarFirst p where
  bare x b hb := by
    rcases hp x with h | ⟨y, h, hle⟩
    · rw [h] at hb
      cases hb
    · rw [h] at hb
      cases List.mem_singleton.1 hb
      exact ⟨rfl, hle⟩
  ordered x := by
    rcases hp x with h | ⟨y, h, -⟩
    · rw [h]
      exact .nil
    · rw [h]
      exact List.pairwise_singleton _ _

/-- A greedy loop ends at the farthest place first. -/
theorem spread_ordered (s : CharSet) : ∀ (before : Option Char) (rest : Text),
    (∀ y ∈ spread s true before rest, y.rest.length ≤ rest.length) ∧
      (spread s true before rest).Pairwise fun y z => y.rest.length < z.rest.length
  | _, [] => ⟨by simp [spread], List.pairwise_singleton _ _⟩
  | before, c :: rest => by
      obtain ⟨hle, hordered⟩ := spread_ordered s (some c) rest
      rw [spread]
      cases s.has c.toNat with
      | false => exact ⟨by simp, List.pairwise_singleton _ _⟩
      | true =>
          have hlt : ∀ y ∈ spread s true (some c) rest, y.rest.length < (c :: rest).length :=
            fun y hy => Nat.lt_succ_of_le (hle y hy)
          rw [if_pos rfl, if_pos rfl]
          refine ⟨fun y hy => ?_, List.pairwise_append.2 ⟨hordered, List.pairwise_singleton _ _, ?_⟩⟩
          · rcases List.mem_append.1 hy with hy | hy
            · exact Nat.le_of_lt (hlt y hy)
            · rw [List.mem_singleton.1 hy]
          · intro y hy z hz
            rw [List.mem_singleton.1 hz]
            exact hlt y hy

theorem FarFirst.plus (n : Nat) (s : CharSet) : FarFirst (.plus n true (.chars s)) where
  bare x b hb := by
    rw [ends] at hb
    rcases stepEnds_cases s x with h | ⟨y, h, hlt⟩
    · rw [h] at hb
      cases hb
    · rw [h, List.flatMap_singleton] at hb
      obtain ⟨z, hz, rfl⟩ := List.mem_map.1 hb
      exact ⟨rfl, Nat.le_trans ((spread_ordered s _ _).1 z hz) (Nat.le_of_lt hlt)⟩
  ordered x := by
    rw [ends]
    rcases stepEnds_cases s x with h | ⟨y, h, -⟩
    · rw [h]
      exact .nil
    · rw [h, List.flatMap_singleton, List.pairwise_map]
      exact (spread_ordered s _ _).2

/-! ## Greedy programs -/

/-- The ways are listed by the lengths of what they capture, from left to right, longer ones first. -/
structure Greedy (p : Prog) : Prop where
  /-- All ways have the same number of captures. -/
  count : ∃ n, ∀ x, ∀ b ∈ p.ends x, b.2.length = n
  /-- The row of lengths of a way is greater than those of the ways after it. -/
  ordered : ∀ x, (p.ends x).Pairwise fun a b => List.Lex (· < ·) (lengths b.2) (lengths a.2)

theorem Fixed.greedy {p : Prog} (hp : Fixed p) : Greedy p where
  count := ⟨0, fun x b hb => by rw [(hp.farFirst.bare x b hb).1]; rfl⟩
  ordered x := by
    rcases hp x with h | ⟨y, h, -⟩
    · rw [h]
      exact .nil
    · rw [h]
      exact List.pairwise_singleton _ _

/-- What is captured under a name is longer where less is left. -/
theorem Greedy.named (name : Text) {p : Prog} (hp : FarFirst p) : Greedy (.named name p) where
  count := by
    refine ⟨1, fun x b hb => ?_⟩
    rw [ends] at hb
    obtain ⟨a, ha, rfl⟩ := List.mem_map.1 hb
    dsimp only
    rw [(hp.bare x a ha).1]
    rfl
  ordered x := by
    rw [ends, List.pairwise_map]
    refine (hp.ordered x).imp_of_mem fun {a b} ha hb hlt => ?_
    obtain ⟨ha, -⟩ := hp.bare x a ha
    obtain ⟨hb, hle⟩ := hp.bare x b hb
    obtain ⟨y, _⟩ := a
    obtain ⟨z, _⟩ := b
    cases ha
    cases hb
    refine .rel ?_
    dsimp only [Spot.span] at hlt hle ⊢
    omega

theorem Greedy.cat {p q : Prog} (hp : Greedy p) (hq : Greedy q) : Greedy (.cat p q) where
  count := by
    obtain ⟨m, hm⟩ := hp.count
    obtain ⟨n, hn⟩ := hq.count
    refine ⟨n + m, fun x b hb => ?_⟩
    rw [ends] at hb
    obtain ⟨a, ha, hb⟩ := List.mem_flatMap.1 hb
    obtain ⟨c, hc, rfl⟩ := List.mem_map.1 hb
    dsimp only
    rw [List.length_append, hm x a ha, hn a.1 c hc]
  ordered x := by
    obtain ⟨m, hm⟩ := hp.count
    rw [ends, List.pairwise_flatMap]
    refine ⟨fun a _ => ?_, (hp.ordered x).imp_of_mem fun {a b} ha hb hlex => ?_⟩
    · -- After one way through the first part, the second part decides.
      rw [List.pairwise_map]
      refine (hq.ordered a.1).imp fun {c d} hlex => ?_
      dsimp only
      rw [lengths_append, lengths_append]
      exact hlex.append_left _ _
    · -- After two ways through the first part, these decide.
      intro c hc d hd
      obtain ⟨c, -, rfl⟩ := List.mem_map.1 hc
      obtain ⟨d, -, rfl⟩ := List.mem_map.1 hd
      dsimp only
      rw [lengths_append, lengths_append]
      refine lex_append_of_length _ _ hlex ?_
      rw [length_lengths, length_lengths, hm x a ha, hm x b hb]

/-- What a search of a greedy program captures is greater in its lengths than what any other way captures. -/
theorem Greedy.search?_greatest {m n : Nat} {p : Prog} (hp : Greedy p) (hlinear : Linear m p n) {w : Text}
    {caps : Captures} (h : p.search? w = some caps) {y : Spot} {cs : Captures} (hway : p.way (.start w) y cs) :
    cs = caps ∨ List.Lex (· < ·) (lengths cs) (lengths caps) := by
  have hmem := (mem_ends hlinear).2 hway
  have hordered := hp.ordered (.start w)
  cases hends : p.ends (.start w) with
  | nil =>
      rw [hends] at hmem
      cases hmem
  | cons first ways =>
      obtain rfl : first.2 = caps := Option.some.inj ((search?_eq hlinear hends).symm.trans h)
      rw [hends] at hmem hordered
      rcases List.mem_cons.1 hmem with heq | hmem
      · exact .inl (congrArg Prod.snd heq)
      · exact .inr ((List.pairwise_cons.1 hordered).1 _ hmem)

end Prog

/-! ## Greedy expressions -/

namespace Expr

/-- Expressions that leave no choice and capture nothing. -/
inductive Fixed : Expr → Prop where
  | empty : Fixed .empty
  | literal {t : Text} : Fixed (.literal t)
  | copies {n : Nat} {greedy narrow : Bool} {s : CharSet} : Fixed (.rep n (some n) greedy (.set narrow s))
  | seq {es : List Expr} : (∀ e ∈ es, Fixed e) → Fixed (.seq es)

/-- Expressions to be captured: they leave no choice, or they are a greedy loop over one character. -/
inductive FarFirst : Expr → Prop where
  | fixed {e : Expr} : Fixed e → FarFirst e
  | loop {narrow : Bool} {s : CharSet} : FarFirst (.rep 1 none true (.set narrow s))

/-- Expressions that leave a choice only in what they capture. -/
inductive Greedy : Expr → Prop where
  | empty : Greedy .empty
  | literal {t : Text} : Greedy (.literal t)
  | anchor {a : Anchor} : Greedy (.anchor a)
  | named {name : Text} {e : Expr} : FarFirst e → Greedy (.group (some name) e)
  | seq {es : List Expr} : (∀ e ∈ es, Greedy e) → Greedy (.seq es)

theorem greedy_kept : Kept Greedy where
  empty := .empty
  literal _ := .literal
  seq es := by
    constructor
    · intro h
      cases h with
      | seq hes => exact hes
    · exact .seq

end Expr

namespace Prog

/-- What programs in sequence keep, the program of a sequence has if those of its parts do. -/
theorem ofSeq_of_cat {Q : Prog → Prop} (hempty : Q .empty) (hcat : ∀ {p q}, Q p → Q q → Q (.cat p q))
    {es : List Expr} (hes : ∀ e ∈ es, ∀ next, Q (ofExpr e next).1) : ∀ next, Q (ofSeq es next).1 := by
  induction es with
  | nil =>
      intro next
      rw [ofSeq]
      exact hempty
  | cons e es ih =>
      intro next
      rw [ofSeq]
      exact hcat (hes e List.mem_cons_self next) (ih (fun f hf => hes f (List.mem_cons_of_mem _ hf)) _)

theorem fixed_ofExpr {e : Expr} (he : e.Fixed) : ∀ next, Fixed (ofExpr e next).1 := by
  induction he with
  | empty =>
      intro next
      rw [ofExpr]
      exact .empty
  | literal =>
      intro next
      rw [ofExpr]
      exact .text _
  | @copies n greedy narrow s =>
      intro next
      have hset : ∀ next, Fixed (ofExpr (.set narrow s) next).1 := by
        intro next
        rw [ofExpr]
        exact .chars s
      rw [ofExpr_copies]
      exact (Fixed.copies hset n next).cat .empty
  | seq _ ih =>
      intro next
      rw [ofExpr]
      exact ofSeq_of_cat .empty .cat ih next

theorem farFirst_ofExpr {e : Expr} (he : e.FarFirst) : ∀ next, FarFirst (ofExpr e next).1 := by
  intro next
  cases he with
  | fixed he => exact (fixed_ofExpr he next).farFirst
  | loop =>
      rw [ofExpr, repeated, atLeastOne]
      simp only [ofExpr]
      exact .plus _ _

/-- The program of a greedy expression is greedy. -/
theorem greedy_ofExpr {e : Expr} (he : e.Greedy) : ∀ next, Greedy (ofExpr e next).1 := by
  induction he with
  | empty =>
      intro next
      rw [ofExpr]
      exact Fixed.empty.greedy
  | literal =>
      intro next
      rw [ofExpr]
      exact (Fixed.text _).greedy
  | anchor =>
      intro next
      rw [ofExpr]
      exact (Fixed.anchor _).greedy
  | named he =>
      intro next
      rw [ofExpr]
      exact .named _ (farFirst_ofExpr he next)
  | seq _ ih =>
      intro next
      rw [ofExpr]
      exact ofSeq_of_cat Fixed.empty.greedy .cat ih next

end Prog

end Signpost.Regex
