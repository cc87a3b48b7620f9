import Mathlib.Data.List.TakeWhile
import Signpost.Target
import Signpost.Proofs.Target.Percent

/-!
# Characters of a target

Each part of a URI refuses characters that it cannot hold.  What has to be encoded is what an authority refuses
(`Uri.isAuthorityChar_eq`), and a path and a query refuse no more than that (`Uri.holds_of_kept`).  So an encoded
text that starts with a slash is read, unless it is too long (`Uri.ofText_slash_of_kept`).  In any other encoded
text no character is refused for what it is, and two texts of one character are refused for where it is
(`Uri.invalidChar_iff`).

*Parts.*  A path and a query are cut off each other before their characters are looked at.  Cutting loses nothing
but the fragment (`Uri.splitQuery_append`), so what is looked at was in the text.
-/

namespace Signpost.Uri

open Percent

variable {c : Char} {t : Text}

/-! ## What encoding leaves -/

/-- What need not be encoded is visible and ASCII, and none of nine characters. -/
theorem kept_iff : mustEncode c = false ↔
    isVisible c = true ∧ c.toNat < 128 ∧ c ∉ "\"<>\\^\x60\x7b|\x7d".toList := by
  have hblank : c ≠ ' ' ↔ c.toNat ≠ 32 := not_congr Char.toNat_inj.symm
  simp only [mustEncode, isVisible, Bool.or_eq_false_iff, decide_eq_false_iff_not, beq_eq_false_iff_ne,
    List.contains_eq_mem, Bool.and_eq_true, decide_eq_true_eq, bne_iff_ne]
  rw [show " \"<>\\^\x60\x7b|\x7d".toList = ' ' :: "\"<>\\^\x60\x7b|\x7d".toList from rfl, List.mem_cons, not_or,
    ← ne_eq, hblank]
  constructor
  · rintro ⟨⟨⟨hascii, hlow⟩, hdelete⟩, hblank, hlist⟩
    exact ⟨⟨by omega, hdelete⟩, by omega, hlist⟩
  · rintro ⟨⟨hlow, hdelete⟩, hascii, hlist⟩
    exact ⟨⟨⟨by omega, by omega⟩, hdelete⟩, by omega, hlist⟩

/-- An authority refuses what has to be encoded, and nothing else. -/
theorem isAuthorityChar_eq (c : Char) : isAuthorityChar c = !mustEncode c := by
  rw [Bool.eq_iff_iff, Bool.not_eq_true', kept_iff]
  simp only [isAuthorityChar, Bool.and_eq_true, decide_eq_true_eq, Bool.not_eq_true', List.contains_eq_mem,
    decide_eq_false_iff_not, and_assoc]

/-- What need not be encoded can stand in every part that refuses only what has to be. -/
theorem holds_of_kept {refused : Text} (hless : refused ⊆ "\"<>\\^\x60\x7b|\x7d".toList)
    (h : mustEncode c = false) : (isVisible c && !refused.contains c) = true := by
  obtain ⟨hvisible, -, hlist⟩ := kept_iff.1 h
  rw [hvisible, Bool.true_and, Bool.not_eq_true', List.contains_eq_mem, decide_eq_false_iff_not]
  exact fun hc => hlist (hless hc)

theorem isPathChar_of_kept (h : mustEncode c = false) : isPathChar c = true :=
  holds_of_kept (by simp) h

theorem isQueryChar_of_kept (h : mustEncode c = false) : isQueryChar c = true :=
  holds_of_kept (by simp) h

/-! ## Paths and queries -/

/-- The end of a target: a question mark and the query, if there is one. -/
def asking : Option Text → Text
  | some query => '?' :: query
  | none => []

/-- Cutting at the query loses nothing but the fragment. -/
theorem splitQuery_append (t : Text) :
    (splitQuery t).1 ++ asking (splitQuery t).2 = t.takeWhile (· != '#') := by
  unfold splitQuery
  dsimp only
  cases hcut : Text.cut? '?' (t.takeWhile (· != '#')) with
  | none => exact List.append_nil _
  | some parts => exact (Text.cut?_eq_some hcut).symm

theorem readPath_eq_ok_iff {parts : Text × Option Text} : readPath t = .ok parts ↔
    splitQuery t = parts ∧ (∀ c ∈ parts.1, isPathChar c = true) ∧
      ∀ query ∈ parts.2, ∀ c ∈ query, isQueryChar c = true := by
  have hquery : ((splitQuery t).2.getD []).all isQueryChar = true ↔
      ∀ query ∈ (splitQuery t).2, ∀ c ∈ query, isQueryChar c = true := by
    cases (splitQuery t).2 <;> simp
  unfold readPath
  dsimp only
  split
  · next hall =>
      rw [Bool.and_eq_true, List.all_eq_true, hquery] at hall
      constructor
      · intro h
        cases h
        exact ⟨rfl, hall⟩
      · rintro ⟨rfl, -⟩
        rfl
  · next hall =>
      rw [Bool.and_eq_true, List.all_eq_true, hquery] at hall
      constructor
      · intro h
        cases h
      · rintro ⟨rfl, h⟩
        exact absurd h hall

/-- What encoding leaves is a path and a query. -/
theorem readPath_of_kept (h : ∀ c ∈ t, mustEncode c = false) : readPath t = .ok (splitQuery t) := by
  have hparts : ∀ c ∈ (splitQuery t).1 ++ asking (splitQuery t).2, mustEncode c = false := by
    rw [splitQuery_append]
    exact fun c hc => h c ((List.takeWhile_sublist _).subset hc)
  rw [List.forall_mem_append] at hparts
  refine readPath_eq_ok_iff.2 ⟨rfl, fun c hc => isPathChar_of_kept (hparts.1 c hc), fun query hquery c hc => ?_⟩
  refine isQueryChar_of_kept (hparts.2 c ?_)
  rw [Option.mem_def.1 hquery]
  exact List.mem_cons_of_mem _ hc

theorem ofText_slash (t : Text) : ofText ('/' :: t) =
    if Text.bytes ('/' :: t) > maxLength then .error .tooLong
    else (readPath ('/' :: t)).map fun parts => { path := parts.1, query := parts.2 } := rfl

/-- What encoding leaves is read if it starts with a slash and is not too long. -/
theorem ofText_slash_of_kept (h : ∀ c ∈ '/' :: t, mustEncode c = false)
    (hlen : Text.bytes ('/' :: t) ≤ maxLength) :
    ofText ('/' :: t) = .ok { path := (splitQuery ('/' :: t)).1, query := (splitQuery ('/' :: t)).2 } := by
  rw [ofText_slash, if_neg (Nat.not_lt.2 hlen), readPath_of_kept h]
  rfl

/-- A text that starts with a slash is read in two parts, each with characters that it can hold. -/
theorem ofText_slash_eq_ok_iff {uri : Uri} : ofText ('/' :: t) = .ok uri ↔
    Text.bytes ('/' :: t) ≤ maxLength ∧ ∃ parts, readPath ('/' :: t) = .ok parts ∧
      uri = { path := parts.1, query := parts.2 } := by
  rw [ofText_slash]
  split
  · next hlen => simp [Nat.not_le.2 hlen]
  · next hlen =>
      cases readPath ('/' :: t) with
      | error e => simp [Except.map]
      | ok parts => simp [Except.map, Nat.not_lt.1 hlen, eq_comm]

/-! ## Authorities -/

/-- No character that encoding leaves is refused for what it is. -/
theorem step_of_kept (h : mustEncode c = false) (s : Scan) : s.step c ≠ .error .invalidChar := by
  have hchar : isAuthorityChar c = true := by rw [isAuthorityChar_eq, h, Bool.not_false]
  unfold Scan.step
  split
  · split <;> simp
  · split <;> simp
  · split <;> simp
  · simp
  · simp
  · simp [hchar]

theorem foldlM_step_of_kept (h : ∀ c ∈ t, mustEncode c = false) (s : Scan) :
    t.foldlM Scan.step s ≠ .error .invalidChar := by
  induction t generalizing s with
  | nil => exact fun hnil => by cases hnil
  | cons c t ih =>
      rw [List.forall_mem_cons] at h
      have hstep := step_of_kept h.1 s
      rw [List.foldlM_cons]
      cases hs : s.step c with
      | error e => rwa [hs] at hstep
      | ok s' => exact ih h.2 s'

theorem checkAuthority_of_kept (h : ∀ c ∈ t, mustEncode c = false) :
    checkAuthority t ≠ .error .invalidChar := by
  have hfold := foldlM_step_of_kept h {}
  unfold checkAuthority
  cases hs : t.foldlM Scan.step ({} : Scan) with
  | error e =>
      intro hrefused
      cases hrefused
      exact hfold hs
  | ok s =>
      dsimp only [bind, Except.bind]
      split <;> simp

/-! ## Whole URIs -/

/-- What follows a scheme is the end of the text, and without a scheme it is all of it. -/
theorem suffix_of_splitScheme {scheme : Option Text} {rest : Text} (h : splitScheme t = .ok (scheme, rest)) :
    rest <:+ t ∧ (scheme = none → rest = t) := by
  unfold splitScheme at h
  split at h
  · cases h
    exact ⟨List.drop_suffix _ _, fun hnone => by cases hnone⟩
  · split at h
    · cases h
      exact ⟨List.drop_suffix _ _, fun hnone => by cases hnone⟩
    · split at h
      · cases h
        exact ⟨List.suffix_refl _, fun _ => rfl⟩
      · split at h
        · next heq =>
            dsimp only at h
            split at h
            · cases h
            · cases h
              have hsuffix : ':' :: '/' :: '/' :: rest <:+ t := heq ▸ List.dropWhile_suffix _
              exact ⟨(List.suffix_append ['/', '/'] rest).trans ((List.suffix_cons ':' _).trans hsuffix),
                fun hnone => by cases hnone⟩
        · cases h
          exact ⟨List.suffix_refl _, fun _ => rfl⟩

theorem splitScheme_ne_invalidChar (t : Text) : splitScheme t ≠ .error .invalidChar := by
  unfold splitScheme
  dsimp only
  repeat' split
  all_goals simp

/-- A step that fails, or the one after it. -/
theorem error_of_bind {ε α β : Type} {x : Except ε α} {f : α → Except ε β} {e : ε}
    (h : x >>= f = .error e) : x = .error e ∨ ∃ a, x = .ok a ∧ f a = .error e := by
  cases x with
  | error e' =>
      cases h
      exact .inl rfl
  | ok a => exact .inr ⟨a, rfl, h⟩

/-- Of what encoding leaves, a lone character that would end an authority is refused for where it is. -/
theorem ofFull_invalidChar (h : ∀ c ∈ t, mustEncode c = false) (hrefused : ofFull t = .error .invalidChar) :
    ∃ c, t = [c] ∧ endsAuthority c = true := by
  rcases error_of_bind hrefused with hsplit | ⟨⟨scheme, rest⟩, hsplit, hrefused⟩
  · exact absurd hsplit (splitScheme_ne_invalidChar t)
  obtain ⟨hsuffix, hwhole⟩ := suffix_of_splitScheme hsplit
  have hrest : ∀ c ∈ rest, mustEncode c = false := fun c hc => h c (hsuffix.subset hc)
  dsimp only at hrefused
  split at hrefused
  · cases hrefused
  rcases error_of_bind hrefused with hauthority | ⟨-, -, hrefused⟩
  · exact absurd hauthority (checkAuthority_of_kept fun c hc => hrest c ((List.takeWhile_sublist _).subset hc))
  cases scheme with
  | some scheme =>
      dsimp only at hrefused
      split at hrefused
      · cases hrefused
      rw [readPath_of_kept fun c hc => hrest c ((List.dropWhile_sublist _).subset hc)] at hrefused
      cases hrefused
  | none =>
      obtain rfl := hwhole rfl
      dsimp only at hrefused
      split at hrefused
      · cases hrefused
      next hafter =>
        split at hrefused
        · next hone =>
            obtain ⟨c, rfl⟩ := List.length_eq_one_iff.1 hone
            refine ⟨c, rfl, ?_⟩
            by_contra hc
            simp [hc] at hafter
        · cases hrefused

/-- What is encoded as one character and is no `%` was this character. -/
theorem eq_of_encode_eq_singleton (h : encode t = [c]) (hc : c ≠ '%') : t = [c] := by
  cases t with
  | nil => cases h
  | cons d t =>
      cases hd : mustEncode d with
      | true =>
          obtain ⟨more, hmore⟩ := exists_encode_escaped hd t
          rw [hmore] at h
          exact absurd (List.cons.inj h).1.symm hc
      | false =>
          rw [encode_kept hd] at h
          obtain ⟨rfl, htail⟩ := List.cons.inj h
          cases t with
          | nil => rfl
          | cons e t => exact absurd htail (encode_ne_nil e t)

/-- An encoded text is refused for a character only if it is a lone `?` or a lone `#`. -/
theorem invalidChar_iff (t : Text) : ofText (encode t) = .error .invalidChar ↔ t = ['?'] ∨ t = ['#'] := by
  have hkept : ∀ c ∈ encode t, mustEncode c = false := fun c hc => mustEncode_of_mem_encode hc
  constructor
  · intro hrefused
    unfold ofText at hrefused
    split at hrefused
    · cases hrefused
    split at hrefused
    · cases hrefused
    · rw [readPath_of_kept hkept] at hrefused
      cases hrefused
    · cases hrefused
    · next hslash _ =>
        obtain ⟨c, hone, hends⟩ := ofFull_invalidChar hkept hrefused
        simp only [endsAuthority, Bool.or_eq_true, beq_iff_eq] at hends
        rcases hends with (rfl | rfl) | rfl
        · exact absurd hone (hslash [])
        · exact .inl (eq_of_encode_eq_singleton hone (by decide))
        · exact .inr (eq_of_encode_eq_singleton hone (by decide))
  · rintro (rfl | rfl) <;> rfl

-- Without being encoded, a target with a blank is refused.
example : ofText "/a b".toList = .error .invalidChar := rfl

end Signpost.Uri
