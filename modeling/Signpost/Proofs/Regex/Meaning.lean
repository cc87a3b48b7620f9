import Signpost.Proofs.Regex.Way

/-!
# Ways through an expression

An expression read as a link (`Expr.way`) says what it matches, by its shape alone: counted repetitions
are counted, and nothing is numbered.  Making a program of an expression keeps its ways
(`Prog.way_ofExpr`), whatever the numbers of the splits are and whether a loop is written for a body that
may match the empty text or for one that may not.

*Normal form.*  Sequences that are built by `Expr.concat` are flattened and have their literals joined;
their ways are those of the parts in a row (`Expr.way_concat`).
-/

namespace Signpost.Regex

namespace Link

/-- A link at least `min` times and at most `max` times; a `max` below `min` counts for `min`. -/
def between (R : Link) (min : Nat) (max : Option Nat) : Link := fun x y cs =>
  ∃ n, min ≤ n ∧ (∀ m, max = some m → n ≤ Nat.max min m) ∧ R.times n x y cs

theorem between_none (R : Link) (n : Nat) : R.between n none = (R.times n).comp R.many := by
  funext x y cs
  apply propext
  constructor
  · intro hway
    obtain ⟨m, hm, -, h⟩ := hway
    obtain ⟨k, rfl⟩ := Nat.exists_eq_add_of_le hm
    rw [times_add] at h
    obtain ⟨z, ds, es, h₁, h₂, rfl⟩ := h
    exact ⟨z, ds, es, h₁, ⟨k, h₂⟩, rfl⟩
  · intro hway
    obtain ⟨z, ds, es, h₁, ⟨k, h₂⟩, rfl⟩ := hway
    refine ⟨n + k, Nat.le_add_right n k, by simp, ?_⟩
    rw [times_add]
    exact ⟨z, ds, es, h₁, h₂, rfl⟩

theorem between_some (R : Link) (n m : Nat) :
    R.between n (some m) = (R.times n).comp (R.between 0 (some (m - n))) := by
  funext x y cs
  apply propext
  constructor
  · intro hway
    obtain ⟨i, hi, hmax, h⟩ := hway
    obtain ⟨k, rfl⟩ := Nat.exists_eq_add_of_le hi
    rw [times_add] at h
    obtain ⟨z, ds, es, h₁, h₂, rfl⟩ := h
    refine ⟨z, ds, es, h₁, ⟨k, Nat.zero_le k, ?_, h₂⟩, rfl⟩
    intro m' hm'
    have hle := hmax m rfl
    cases hm'
    simp only [Nat.max_def] at hle ⊢
    split at hle <;> simp <;> omega
  · intro hway
    obtain ⟨z, ds, es, h₁, ⟨k, -, hk, h₂⟩, rfl⟩ := hway
    refine ⟨n + k, Nat.le_add_right n k, ?_, ?_⟩
    · intro m' hm'
      have hle := hk (m - n) rfl
      cases hm'
      simp only [Nat.max_def] at hle ⊢
      split at hle <;> split <;> omega
    · rw [times_add]
      exact ⟨z, ds, es, h₁, h₂, rfl⟩

/-- At most one time more is nothing, or once and at most so many times. -/
theorem between_zero_succ (R : Link) (n : Nat) :
    R.between 0 (some (n + 1)) = (R.comp (R.between 0 (some n))).either skip := by
  funext x y cs
  apply propext
  constructor
  · intro hway
    obtain ⟨i, -, hmax, h⟩ := hway
    have hle : i ≤ n + 1 := by simpa [Nat.max_def] using hmax (n + 1) rfl
    cases i with
    | zero => exact .inr h
    | succ i =>
        obtain ⟨z, ds, es, hR, hi, rfl⟩ := h
        refine .inl ⟨z, ds, es, hR, ⟨i, Nat.zero_le i, ?_, hi⟩, rfl⟩
        intro m hm
        cases hm
        simp only [Nat.max_def]
        split <;> omega
  · rintro (⟨z, ds, es, hR, ⟨i, -, hi, h⟩, rfl⟩ | h)
    · refine ⟨i + 1, Nat.zero_le _, ?_, z, ds, es, hR, h, rfl⟩
      intro m hm
      have hle : i ≤ n := by simpa [Nat.max_def] using hi n rfl
      cases hm
      simp only [Nat.max_def]
      split <;> omega
    · exact ⟨0, Nat.le_refl 0, by simp, h⟩

theorem between_zero_zero (R : Link) : R.between 0 (some 0) = skip := by
  funext x y cs
  apply propext
  constructor
  · intro hway
    obtain ⟨i, -, hmax, h⟩ := hway
    have hle : i ≤ 0 := by simpa [Nat.max_def] using hmax 0 rfl
    obtain rfl : i = 0 := by omega
    exact h
  · exact fun h => ⟨0, Nat.le_refl 0, by simp, h⟩

theorem Forward.between {R : Link} (hR : Forward R) (min : Nat) (max : Option Nat) :
    Forward (R.between min max) := by
  rintro x y cs ⟨n, -, -, h⟩
  exact hR.times n h

theorem Within.between {names : List Text} {R : Link} (hR : Within names R) (min : Nat)
    (max : Option Nat) : Within names (R.between min max) := by
  rintro x y cs ⟨n, -, -, h⟩
  exact hR.times n h

end Link

namespace Expr

mutual

/-- The ways through an expression. -/
def way : Expr → Link
  | empty => .skip
  | literal t => .text t
  | set _ s => .char s
  | anchor a => .test a
  | group none e => e.way
  | group (some name) e => e.way.capture name
  | seq es => waysInRow es
  | choice es => waysToChoose es
  | rep min max _ e => e.way.between min max

/-- The ways through expressions one after another. -/
def waysInRow : List Expr → Link
  | [] => .skip
  | e :: es => e.way.comp (waysInRow es)

/-- The ways through one of several expressions. -/
def waysToChoose : List Expr → Link
  | [] => fun _ _ _ => False
  | e :: es => e.way.either (waysToChoose es)

end

/-! ## Normal form -/

theorem waysInRow_append (es fs : List Expr) :
    waysInRow (es ++ fs) = (waysInRow es).comp (waysInRow fs) := by
  induction es with
  | nil => rw [List.nil_append, waysInRow, Link.skip_comp]
  | cons e es ih => rw [List.cons_append, waysInRow, waysInRow, ih, Link.comp_assoc]

theorem waysInRow_singleton (e : Expr) : waysInRow [e] = e.way := by
  rw [waysInRow, waysInRow, Link.comp_skip]

theorem waysInRow_parts (e : Expr) : waysInRow e.parts = e.way := by
  cases e with
  | empty => rw [parts, waysInRow, way]
  | seq es => rw [parts, way]
  | _ => exact waysInRow_singleton _

theorem waysInRow_flatMap_parts (es : List Expr) :
    waysInRow (es.flatMap parts) = waysInRow es := by
  induction es with
  | nil => rfl
  | cons e es ih => rw [List.flatMap_cons, waysInRow_append, waysInRow_parts, ih, waysInRow]

theorem waysInRow_joinLiterals (es : List Expr) : waysInRow (joinLiterals es) = waysInRow es := by
  induction es with
  | nil => rfl
  | cons e es ih =>
      unfold joinLiterals
      split
      · next h => cases h
      · next t rest h =>
          cases h
          rw [waysInRow, ← ih]
          split
          · next u rest' hjoin =>
              rw [hjoin, waysInRow, waysInRow, way, way, way, Link.text_append, Link.comp_assoc]
          · rw [waysInRow]
      · next e' rest hne h =>
          cases h
          rw [waysInRow, waysInRow, ih]

/-- The ways through a sequence are those of its parts in a row. -/
theorem way_concat (es : List Expr) : (concat es).way = waysInRow es := by
  have h : waysInRow (joinLiterals (es.flatMap parts)) = waysInRow es := by
    rw [waysInRow_joinLiterals, waysInRow_flatMap_parts]
  rw [← h]
  unfold concat
  split
  · next hnil => rw [hnil, way, waysInRow]
  · next e hone => rw [hone, waysInRow_singleton]
  · rw [way]

/-! ## What all ways keep -/

mutual

/-- Every way goes forwards. -/
theorem way_forward : ∀ e : Expr, e.way.Forward
  | empty => by rw [way]; exact .skip
  | literal t => by
      rw [way]
      exact fun _ _ _ h => ⟨t, h.1⟩
  | set _ s => by
      rw [way]
      rintro x y cs ⟨c, -, h, -⟩
      exact ⟨[c], h⟩
  | anchor a => by
      rw [way]
      rintro x y cs ⟨-, rfl, -⟩
      exact ⟨[], .nil⟩
  | group none e => by
      rw [way]
      exact way_forward e
  | group (some name) e => by
      rw [way]
      rintro x y cs ⟨ds, h, -⟩
      exact way_forward e h
  | seq es => by
      rw [way]
      exact waysInRow_forward es
  | choice es => by
      rw [way]
      exact waysToChoose_forward es
  | rep min max _ e => by
      rw [way]
      exact (way_forward e).between min max

theorem waysInRow_forward : ∀ es : List Expr, (waysInRow es).Forward
  | [] => by rw [waysInRow]; exact .skip
  | e :: es => by
      rw [waysInRow]
      exact (way_forward e).comp (waysInRow_forward es)

theorem waysToChoose_forward : ∀ es : List Expr, (waysToChoose es).Forward
  | [] => by rw [waysToChoose]; exact fun _ _ _ h => h.elim
  | e :: es => by
      rw [waysToChoose]
      rintro x y cs (h | h)
      · exact way_forward e h
      · exact waysToChoose_forward es h

end

end Expr

/-! ## Making a program keeps the ways -/

namespace Prog

/-- The programs of a numbering have the same ways, whatever number is next. -/
def Numbering.Means (b : Numbering) (R : Link) : Prop := ∀ next, (b next).1.way = R

variable {b c : Numbering} {R S : Link}

theorem way_single (a : Char) : (chars (.single a)).way = .text [a] := by
  have hsingle (d : Char) : (CharSet.single a).has d.toNat ↔ d = a := by
    simp only [CharSet.single, Unicode.Ranges.has, ← Char.toNat_inj]
    split <;> simp <;> omega
  funext x y cs
  apply propext
  constructor
  · intro hway
    obtain ⟨d, hd, h, rfl⟩ := hway
    rw [hsingle] at hd
    subst hd
    exact ⟨h, rfl⟩
  · intro hway
    obtain ⟨h, rfl⟩ := hway
    exact ⟨a, (hsingle a).2 rfl, h, rfl⟩

theorem way_text : ∀ t : Text, (text t).way = .text t
  | [] => by rw [text, way, Link.text_nil]
  | [a] => by
      rw [text]
      exact way_single a
  | a :: d :: t => by
      rw [text, way, way_single, way_text (d :: t), ← Link.text_append, List.singleton_append]
      exact fun h => by cases h

theorem Numbering.Means.both (hb : b.Means R) (hc : c.Means S) :
    Numbering.Means (Prog.both b c) (R.comp S) := by
  intro next
  simp only [Prog.both, way, hb _, hc _]

theorem Numbering.Means.copies (hb : b.Means R) : ∀ n,
    Numbering.Means (Prog.copies b n) (R.times n)
  | 0 => fun _ => rfl
  | n + 1 => fun next => by
      simp only [Prog.copies, way, hb _, Numbering.Means.copies hb n _, Link.times]

theorem Numbering.Means.options (hb : b.Means R) (greedy : Bool) : ∀ n,
    Numbering.Means (Prog.options greedy b n) (R.between 0 (some n))
  | 0 => fun _ => by rw [Link.between_zero_zero]; rfl
  | n + 1 => fun next => by
      simp only [Prog.options, way, hb _, Numbering.Means.options hb greedy n _]
      rw [Link.between_zero_succ]

theorem Numbering.Means.atLeastOne (hb : b.Means R) (greedy : Bool) :
    Numbering.Means (Prog.atLeastOne greedy b) (R.comp R.many) := by
  intro next
  simp only [Prog.atLeastOne, way, hb _]

theorem Numbering.Means.anyNumber (hb : b.Means R) (greedy nullable : Bool) :
    Numbering.Means (Prog.anyNumber greedy nullable b) R.many := by
  intro next
  cases nullable with
  | false => simp only [Prog.anyNumber, way, hb _, Bool.false_eq_true, if_false]
  | true =>
      simp only [Prog.anyNumber, if_true, way, hb.atLeastOne greedy _]
      exact (Link.many_eq R).symm

theorem Numbering.Means.repeated (hb : b.Means R) (min : Nat) (max : Option Nat)
    (greedy nullable : Bool) :
    Numbering.Means (Prog.repeated min max greedy nullable b) (R.between min max) := by
  unfold Prog.repeated
  split
  · rw [Link.between_none, Link.times, Link.skip_comp]
    exact hb.anyNumber greedy nullable
  · rw [Link.between_none, Link.times, Link.times, Link.comp_skip]
    exact hb.atLeastOne greedy
  · next n _ =>
      rw [Link.between_none, Link.times_succ, Link.comp_assoc]
      exact (hb.copies n).both (hb.atLeastOne greedy)
  · next most =>
      rw [Link.between_some]
      exact (hb.copies min).both (hb.options greedy (most - min))

mutual

/-- The program of an expression has the ways of the expression. -/
theorem way_ofExpr : ∀ (e : Expr) (next : Nat), (ofExpr e next).1.way = e.way
  | .empty, _ => by rw [ofExpr, way, Expr.way]
  | .literal t, _ => by rw [ofExpr, way_text, Expr.way]
  | .set _ s, _ => by rw [ofExpr, way, Expr.way]
  | .anchor a, _ => by rw [ofExpr, way, Expr.way]
  | .group none e, next => by rw [ofExpr, way_ofExpr e, Expr.way]
  | .group (some name) e, next => by
      simp only [ofExpr, way, way_ofExpr e, Expr.way]
  | .seq es, next => by rw [ofExpr, way_ofSeq es, Expr.way]
  | .choice es, next => by rw [ofExpr, way_ofChoice es, Expr.way]
  | .rep min max greedy e, next => by
      rw [ofExpr, Expr.way]
      exact Numbering.Means.repeated (way_ofExpr e) min max greedy e.nullable next

theorem way_ofSeq : ∀ (es : List Expr) (next : Nat), (ofSeq es next).1.way = Expr.waysInRow es
  | [], _ => by rw [ofSeq, way, Expr.waysInRow]
  | e :: es, next => by
      rw [ofSeq, Expr.waysInRow]
      exact Numbering.Means.both (way_ofExpr e) (way_ofSeq es) next

theorem way_ofChoice : ∀ (es : List Expr) (next : Nat),
    (ofChoice es next).1.way = Expr.waysToChoose es
  | [], _ => by
      rw [ofChoice, way, Expr.waysToChoose]
      funext x y cs
      apply propext
      constructor
      · intro hway
        obtain ⟨c, hc, -⟩ := hway
        cases hc
      · exact False.elim
  | [e], next => by
      rw [ofChoice, way_ofExpr e, Expr.waysToChoose, Expr.waysToChoose]
      funext x y cs
      exact propext ⟨.inl, fun h => h.elim id False.elim⟩
  | e :: f :: es, next => by
      rw [Expr.waysToChoose, ← way_ofChoice (f :: es) (ofExpr e (next + 1)).2, ← way_ofExpr e (next + 1)]
      rfl

end

end Prog

end Signpost.Regex
