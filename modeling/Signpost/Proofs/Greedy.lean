import Signpost.Proofs.Pattern
import Signpost.Proofs.Regex.Greedy
import Signpost.Proofs.Regex.Size

/-!
# Paths with several readings

With more than one placeholder that accepts slashes, a path may be the template filled in more than one way.
The values captured are then those of the greatest row of lengths: the first value is as long as it can be,
the second as long as it can be after that, and so on (`Pattern.captures?_greatest`).

*Lengths.*  Where no kind has an expression of its own, nothing is captured besides the values, so the captures
of a way tell the values and their lengths (`Captured.texts_eq`, `Captured.lengths_eq`).  All ways to fill
the template to the path are ways of one greedy program, and a search takes the first of these.
-/

namespace Signpost

open Regex

namespace Captured

variable {ps : List Placeholder} {vs : List Text} {cs : Captures}

/-- The captures of values of kinds without expressions of their own, from left to right. -/
theorem exists_of_cons {p : Placeholder} {v : Text} (h : Captured (p :: ps) (v :: vs) cs)
    (hraw : p.kind.isRaw = false) : ∃ (ds : Captures) (x y : Spot), x.Takes v y ∧ Captured ps vs ds ∧
      cs = ds ++ [(p.name, x.span y)] := by
  cases h with
  | @cons _ _ _ _ ds es x y hway htakes hrest =>
      rw [Kind.way_body hraw] at hway
      obtain ⟨_, _, _, rfl⟩ := hway
      exact ⟨ds, x, y, htakes, hrest, rfl⟩

theorem texts_eq : ∀ {ps : List Placeholder} {vs : List Text} {cs : Captures}, Captured ps vs cs →
    (∀ p ∈ ps, p.kind.isRaw = false) → cs.reverse.map (·.2.text) = vs
  | [], _, _, h, _ => by
      cases h
      rfl
  | p :: ps, [], _, h, _ => by cases h
  | p :: ps, v :: vs, _, h, hraw => by
      rw [List.forall_mem_cons] at hraw
      obtain ⟨ds, x, y, htakes, hrest, rfl⟩ := h.exists_of_cons hraw.1
      rw [List.reverse_append, List.reverse_singleton, List.singleton_append, List.map_cons, htakes.span_text,
        hrest.texts_eq hraw.2]

theorem lengths_eq : ∀ {ps : List Placeholder} {vs : List Text} {cs : Captures}, Captured ps vs cs →
    (∀ p ∈ ps, p.kind.isRaw = false) → lengths cs = vs.map List.length
  | [], _, _, h, _ => by
      cases h
      rfl
  | p :: ps, [], _, h, _ => by cases h
  | p :: ps, v :: vs, _, h, hraw => by
      rw [List.forall_mem_cons] at hraw
      obtain ⟨ds, x, y, htakes, hrest, rfl⟩ := h.exists_of_cons hraw.1
      have hlen : (x.span y).length = v.length := by
        rw [Spot.span, htakes.rest_eq, List.length_append, Nat.add_sub_cancel]
      rw [lengths_append, hrest.lengths_eq hraw.2, List.map_cons, ← hlen]
      rfl

end Captured

/-- The expression of a kind leaves no choice, or it is a greedy loop. -/
theorem Kind.farFirst_body {k : Kind} (hk : k.isRaw = false) : k.body.FarFirst := by
  have hrow : ∀ (n : Nat) (ns : List Nat), ∀ e ∈ hexRow n ns, e.Fixed := by
    intro n ns
    induction ns generalizing n with
    | nil =>
        intro e he
        rw [List.mem_singleton.1 he]
        exact .copies
    | cons m ms ih =>
        intro e he
        rcases List.mem_cons.1 he with rfl | he
        · exact .copies
        · rcases List.mem_cons.1 he with rfl | he
          · exact .literal
          · exact ih m e he
  rw [body_eq_shape]
  cases k with
  | raw => cases hk
  | uuid => exact .fixed (.seq (hrow 8 [4, 4, 4, 12]))
  | _ => exact .loop

namespace Pattern

variable {s : Settings} {t : Template} {p : Pattern} {path : Text}

theorem greedy_prog (ht : ∀ q ∈ Template.placeholders t, isIdentifier q.name = true ∧ q.kind.isRaw = false)
    (hp : compile s t = .ok p) : p.regex.prog.Greedy := by
  obtain ⟨e, hprog, hkept⟩ := exists_ofExpr_of_exprs ht hp
  rw [hprog]
  refine Prog.greedy_ofExpr (hkept Expr.greedy_kept (fun _ => .anchor) ?_) 0
  exact forall_mem_rowExprs (fun _ => .literal) fun q hq => .named (Kind.farFirst_body (ht q hq).2)

/-- What is captured from a path that matches are the accepted values with the greatest row of lengths, of all
with which the path is the template filled. -/
theorem captures?_greatest
    (ht : ∀ q ∈ Template.placeholders t, isIdentifier q.name = true ∧ q.kind.isRaw = false)
    (hp : compile s t = .ok p) (hmatch : p.isMatch path = true) :
    (Template.params t).Nodup ∧ ∃ vs, Accepted t vs ∧ Template.fill? t vs = some path ∧
      p.captures? path = some ⟨(Template.params t).zip vs⟩ ∧
      ∀ ws, Accepted t ws → Template.fill? t ws = some path →
        ws = vs ∨ List.Lex (· < ·) (ws.map List.length) (vs.map List.length) := by
  have hraw : ∀ q ∈ Template.placeholders t, q.kind.isRaw = false := fun q hq => (ht q hq).2
  have hreadable : Template.Readable t := fun q hq => ⟨(ht q hq).1, Kind.standalone (ht q hq).2⟩
  obtain ⟨caps, hsearch⟩ := Option.isSome_iff_exists.1 hmatch
  obtain ⟨vs, hcaptured, hfill, hdistinct⟩ := exists_fill_of_search? hreadable hp hsearch
  refine ⟨nodup_params hdistinct, vs, hcaptured.accepts hraw, hfill,
    captures?_of_search? hp hdistinct hsearch hcaptured, fun ws hws hfill' => ?_⟩
  obtain ⟨n, hlinear⟩ := exists_linear_prog ht hp
  obtain ⟨y, cs, hcaptured', hway⟩ := exists_way_of_accepted ht hp hws hfill'
  rcases (greedy_prog ht hp).search?_greatest hlinear hsearch hway with rfl | hlex
  · exact .inl ((hcaptured'.texts_eq hraw).symm.trans (hcaptured.texts_eq hraw))
  · rw [hcaptured'.lengths_eq hraw, hcaptured.lengths_eq hraw] at hlex
    exact .inr hlex

/-! ## Two values that share a path -/

/-- A template with a number between two values that may hold slashes. -/
def betweenTemplate : Template := "/<<a:any>>/<<n:int>>/<<b:any>>".toList

/-- Its expression, by the set of characters that the two values may have. -/
def betweenExpr (runs : CharSet) : Expr :=
  .seq [.anchor .textStart, .literal "/".toList, .group (some "a".toList) (Kind.loop runs), .literal "/".toList,
    .group (some "n".toList) (Kind.loop .asciiDigit), .literal "/".toList,
    .group (some "b".toList) (Kind.loop runs), .anchor .textEnd]

/-- Its pattern. -/
def betweenPattern : Pattern :=
  ⟨betweenTemplate, ⟨Template.anchoredRegex betweenTemplate,
    (Prog.ofExpr (betweenExpr (.others (.single '\n'))) 0).1⟩⟩

theorem compile_betweenTemplate : compile {} betweenTemplate = .ok betweenPattern := by
  have hexpr : Expr.ofText? (Template.anchoredRegex betweenTemplate) =
      some (betweenExpr (.others (.single '\n'))) := rfl
  have hset : setBytes false (.others (.single '\n')) ≤ 1000 :=
    Nat.le_trans (setBytes_le (by decide)) (by decide +kernel)
  -- Only the set of characters has a size that is not plain to see.
  have hbytes (runs : CharSet) : (betweenExpr runs).machineBytes false = 672 + 2 * setBytes false runs := by
    have hslash : Text.bytes "/".toList = 1 := by decide
    have hdigits : setBytes false .asciiDigit = 72 := by decide
    simp only [betweenExpr, Kind.loop, Expr.machineBytes, Expr.bytes, sumBytes, repeatBytes, stateBytes,
      branchBytes, hslash, hdigits, Bool.false_eq_true, if_false]
    omega
  have hforwards : (betweenExpr (.others (.single '\n'))).machineBytes false ≤ 1048576 := by
    rw [hbytes]
    omega
  have hbackwards : (betweenExpr (.others (.single '\n'))).machineBytes true ≤ 1048576 := by
    decide +kernel
  refine compile_of_ofText? (by decide) (by decide) hexpr ?_
  rw [Expr.fits, Bool.and_eq_true, decide_eq_true_eq, decide_eq_true_eq]
  exact ⟨hforwards, hbackwards⟩

/-- The first value takes as much as the others leave it, though the path could be shared out otherwise. -/
theorem captures?_greatest_of_between :
    (compile {} betweenTemplate = .ok betweenPattern ∧ betweenPattern.isMatch "/1/2/3/4".toList = true) ∧
      betweenPattern.captures? "/1/2/3/4".toList =
        some ⟨[("a".toList, "1/2".toList), ("n".toList, "3".toList), ("b".toList, "4".toList)]⟩ ∧
      (Accepted betweenTemplate ["1".toList, "2".toList, "3/4".toList] ∧
        Template.fill? betweenTemplate ["1".toList, "2".toList, "3/4".toList] = some "/1/2/3/4".toList) ∧
      ∀ ws, Accepted betweenTemplate ws → Template.fill? betweenTemplate ws = some "/1/2/3/4".toList →
        ws = ["1/2".toList, "3".toList, "4".toList] ∨ List.Lex (· < ·) (ws.map List.length) [3, 1, 1] := by
  have hmatch : betweenPattern.isMatch "/1/2/3/4".toList = true := by decide +kernel
  have hfound : betweenPattern.captures? "/1/2/3/4".toList =
      some ⟨[("a".toList, "1/2".toList), ("n".toList, "3".toList), ("b".toList, "4".toList)]⟩ := by
    decide +kernel
  obtain ⟨-, vs, hvs, -, hcaptures, hgreatest⟩ :=
    captures?_greatest (by decide) compile_betweenTemplate hmatch
  have hvalues : vs = ["1/2".toList, "3".toList, "4".toList] := by
    have hlen : vs.length = (Template.params betweenTemplate).length := by
      rw [← hvs.length_eq, Template.params, List.length_map]
    have hzip := congrArg Vars.bindings (Option.some.inj (hcaptures.symm.trans hfound))
    have hsnd := congrArg (List.map Prod.snd) hzip
    rwa [List.map_snd_zip (Nat.le_of_eq hlen)] at hsnd
  subst hvalues
  have hother : Accepted betweenTemplate ["1".toList, "2".toList, "3/4".toList] :=
    .cons ⟨by decide, List.all_eq_true.1 rfl⟩ (.cons ⟨by decide, List.all_eq_true.1 rfl⟩
      (.cons ⟨by decide, List.all_eq_true.1 rfl⟩ .nil))
  exact ⟨⟨compile_betweenTemplate, hmatch⟩, hfound, ⟨hother, rfl⟩, hgreatest⟩

end Pattern

end Signpost
