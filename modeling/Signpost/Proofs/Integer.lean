import Signpost.Value
import Signpost.Proofs.Pattern
import Signpost.Proofs.Reversal
import Signpost.Proofs.Template.Slash

/-!
# Whole numbers in paths

*Reading.*  A run of digits of any length is read as the number it denotes if that is within the limit, and is too
large otherwise (`Value.readDigits_of_digits`).  The check is made after every digit.  It comes to the same as one
check at the end, since more digits never make the number smaller (`Text.le_ofDigitChars`).  A plus sign may come
before the run (`Value.readInt_none_eq_ok_iff`).

*In paths.*  A placeholder for digits stands between other placeholders.  If no value has a slash, the path tells
what stands for each of them.  So what is captured for the placeholder is the decimal form that was put there, and a
number below zero, which has a sign in front, gives a path that is not matched (`Route.keepsIntegers`).
-/

namespace Signpost

/-! ## Decimal forms -/

namespace Text

/-- The decimal form of a whole number: a minus sign comes before the digits of those below zero. -/
def ofInt : Int → Text
  | .ofNat n => ofNat n
  | .negSucc n => '-' :: ofNat (n + 1)

theorem run_ofNat (n : Nat) : Kind.Run Char.isDigit (ofNat n) :=
  ⟨Nat.toDigits_ne_nil, fun _ hc => Nat.isDigit_of_mem_toDigits (by decide) (by decide) hc⟩

theorem slash_not_mem_ofInt (n : Int) : '/' ∉ ofInt n := by
  cases n with
  | ofNat n => exact (run_ofNat n).not_mem (by decide)
  | negSucc n =>
      rw [ofInt, List.mem_cons, not_or]
      exact ⟨by decide, (run_ofNat (n + 1)).not_mem (by decide)⟩

/-- Only a number below zero has a form that is not of digits. -/
theorem run_ofInt_iff {n : Int} : Kind.Run Char.isDigit (ofInt n) ↔ 0 ≤ n := by
  cases n with
  | ofNat n => exact ⟨fun _ => Int.natCast_nonneg n, fun _ => run_ofNat n⟩
  | negSucc n =>
      constructor
      · intro h
        exact absurd (h.2 '-' List.mem_cons_self) (by decide)
      · intro h
        exact absurd h (Int.not_le.2 (Int.negSucc_lt_zero n))

/-- More digits make a number no smaller. -/
theorem le_ofDigitChars (n : Nat) (t : Text) : n ≤ Nat.ofDigitChars 10 t n := by
  induction t generalizing n with
  | nil => exact Nat.le_refl n
  | cons c t ih =>
      rw [Nat.ofDigitChars_cons]
      have h := ih (10 * n + (c.toNat - '0'.toNat))
      omega

end Text

/-! ## Reading -/

theorem decimalDigit?_of_isDigit {c : Char} (h : c.isDigit = true) :
    decimalDigit? c = some (c.toNat - '0'.toNat) := by
  have hrange : '0' ≤ c ∧ c ≤ '9' := by simpa [Char.isDigit, Char.le_def] using h
  rw [decimalDigit?, if_pos hrange]
  rfl

theorem isDigit_of_decimalDigit? {c : Char} {d : Nat} (h : decimalDigit? c = some d) : c.isDigit = true := by
  rw [decimalDigit?] at h
  split at h
  · next hrange => simpa [Char.isDigit, Char.le_def] using hrange
  · cases h

namespace Value

variable {max : Nat} {t : Text}

/-- Digits are read as the number they denote, or they are beyond the limit. -/
theorem readDigits_of_digits {beyond : ReadFault} {n : Nat} (ht : ∀ c ∈ t, c.isDigit = true) (hn : n ≤ max) :
    readDigits max beyond n t =
      if Nat.ofDigitChars 10 t n ≤ max then .ok (Nat.ofDigitChars 10 t n) else .error beyond := by
  induction t generalizing n with
  | nil => rw [readDigits, Nat.ofDigitChars_nil, if_pos hn]
  | cons c t ih =>
      rw [List.forall_mem_cons] at ht
      rw [readDigits, decimalDigit?_of_isDigit ht.1, Nat.ofDigitChars_cons, Nat.mul_comm 10 n]
      dsimp only
      split
      · next hle => exact ih ht.2 hle
      · next hgt =>
          have hmore := Text.le_ofDigitChars (n * 10 + (c.toNat - '0'.toNat)) t
          rw [if_neg (by omega)]

/-- Only digits are read. -/
theorem isDigit_of_readDigits {beyond : ReadFault} {n m : Nat} (h : readDigits max beyond n t = .ok m) :
    ∀ c ∈ t, c.isDigit = true := by
  induction t generalizing n with
  | nil => simp
  | cons c t ih =>
      rw [readDigits] at h
      split at h
      · cases h
      · next d hd =>
          dsimp only at h
          split at h
          · exact List.forall_mem_cons.2 ⟨isDigit_of_decimalDigit? hd, ih h⟩
          · cases h

/-- What is read, and as which number. -/
theorem readDigits_eq_ok_iff {beyond : ReadFault} {n : Nat} : readDigits max beyond 0 t = .ok n ↔
    (∀ c ∈ t, c.isDigit = true) ∧ n = Nat.ofDigitChars 10 t 0 ∧ n ≤ max := by
  constructor
  · intro h
    have ht := isDigit_of_readDigits h
    rw [readDigits_of_digits ht (Nat.zero_le max)] at h
    split at h
    · next hle =>
        cases h
        exact ⟨ht, rfl, hle⟩
    · cases h
  · rintro ⟨ht, rfl, hle⟩
    rw [readDigits_of_digits ht (Nat.zero_le max), if_pos hle]

theorem readInt_of_digits {min : Option Nat} (ht : Kind.Run Char.isDigit t) :
    readInt min max t =
      if Nat.ofDigitChars 10 t 0 ≤ max then .ok (Nat.ofDigitChars 10 t 0) else .error .tooLarge := by
  have hsign : ∀ rest, t ≠ '+' :: rest ∧ t ≠ '-' :: rest := by
    intro rest
    constructor
    · rintro rfl
      exact absurd (ht.2 '+' List.mem_cons_self) (by decide)
    · rintro rfl
      exact absurd (ht.2 '-' List.mem_cons_self) (by decide)
  unfold readInt
  split
  · exact absurd rfl ht.1
  · exact absurd rfl (hsign _).1
  · exact absurd rfl (hsign _).2
  · rw [readDigits_of_digits ht.2 (Nat.zero_le max)]
    split <;> rfl

theorem map_readDigits_eq_ok {beyond : ReadFault} {i : Int} (h : (readDigits max beyond 0 t).map Int.ofNat = .ok i) :
    (∀ c ∈ t, c.isDigit = true) ∧ Nat.ofDigitChars 10 t 0 ≤ max ∧ i = Nat.ofDigitChars 10 t 0 := by
  cases hread : readDigits max beyond 0 t with
  | error e =>
      rw [hread] at h
      cases h
  | ok n =>
      rw [hread] at h
      cases h
      obtain ⟨ht, rfl, hle⟩ := readDigits_eq_ok_iff.1 hread
      exact ⟨ht, hle, rfl⟩

/-- A number that cannot be negative is read from its digits, perhaps after a plus sign. -/
theorem readInt_none_eq_ok_iff {i : Int} : readInt none max t = .ok i ↔
    ∃ digits, (t = digits ∨ t = '+' :: digits) ∧ Kind.Run Char.isDigit digits ∧
      Nat.ofDigitChars 10 digits 0 ≤ max ∧ i = Nat.ofDigitChars 10 digits 0 := by
  constructor
  · intro h
    unfold readInt at h
    split at h
    · cases h
    · next rest =>
        split at h
        · cases h
        · next hne =>
            obtain ⟨hrun, hle, hi⟩ := map_readDigits_eq_ok h
            exact ⟨rest, .inr rfl, ⟨by simpa using hne, hrun⟩, hle, hi⟩
    · cases h
    · next hne _ _ =>
        obtain ⟨hrun, hle, hi⟩ := map_readDigits_eq_ok h
        exact ⟨t, .inl rfl, ⟨hne, hrun⟩, hle, hi⟩
  · rintro ⟨digits, rfl | rfl, hrun, hle, rfl⟩
    · rw [readInt_of_digits hrun, if_pos hle]
    · rw [readInt, if_neg (by simpa using hrun.1), readDigits_of_digits hrun.2 (Nat.zero_le max), if_pos hle]
      rfl

end Value

/-- The largest whole number of 64 bits. -/
def maxInt : Nat := 9223372036854775807

theorem Vars.getInt_of_digits {vars : Vars} {k raw : Text} (hraw : vars.get? k = some raw)
    (hdigits : Kind.Run Char.isDigit raw) :
    vars.getInt k =
      if Nat.ofDigitChars 10 raw 0 ≤ maxInt then .ok (Nat.ofDigitChars 10 raw 0)
      else .error (.unreadable k raw (.signed 64) .tooLarge) := by
  have hmax : Value.countOfBits 63 - 1 = maxInt := rfl
  rw [getInt, hraw]
  dsimp only
  rw [Value.readInt_of_digits hdigits, hmax]
  split <;> rfl

/-! ## In paths -/

namespace Pattern

variable {t : Template} {before after : List Placeholder} {q : Placeholder} {vs ws : List Text} {v : Text}

/-- Accepted values of the placeholders before one and after it, and an accepted value for it between them. -/
theorem Accepted.of_split (ht : Template.placeholders t = before ++ q :: after)
    (hvs : List.Forall₂ (fun q v => q.kind.Accepts v) before vs) (hv : q.kind.Accepts v)
    (hws : List.Forall₂ (fun q v => q.kind.Accepts v) after ws) : Accepted t (vs ++ v :: ws) := by
  rw [Accepted, ht]
  exact List.rel_append hvs (.cons hv hws)

theorem Accepted.exists_split (ht : Template.placeholders t = before ++ q :: after) {values : List Text}
    (h : Accepted t values) : ∃ vs v ws, values = vs ++ v :: ws ∧
      List.Forall₂ (fun q v => q.kind.Accepts v) before vs ∧ q.kind.Accepts v ∧
      List.Forall₂ (fun q v => q.kind.Accepts v) after ws := by
  rw [Accepted, ht] at h
  obtain ⟨vs, rest, hvs, hrest, rfl⟩ := Template.exists_of_forall₂_append h
  obtain ⟨v, ws, hv, hws, rfl⟩ := List.forall₂_cons_left_iff.1 hrest
  exact ⟨vs, v, ws, rfl, hvs, hv, hws⟩

/-- A placeholder has the value that stands where it stands. -/
theorem get?_zip_of_split (ht : Template.placeholders t = before ++ q :: after)
    (hnodup : (Template.params t).Nodup) (hvs : vs.length = before.length) (v : Text) (ws : List Text) :
    Vars.get? ⟨(Template.params t).zip (vs ++ v :: ws)⟩ q.name = some v := by
  refine get?_zip_params hnodup (q, v) ?_
  rw [ht, List.zip_append hvs.symm, List.zip_cons_cons]
  exact List.mem_append_right _ List.mem_cons_self

end Pattern

namespace Route

/-- What a whole number put into the path of a route is read back as, where `k` is the name of a placeholder for
digits between others. -/
structure KeepsIntegers (r : Route) (p : Pattern) (before : List Placeholder) (k : Text)
    (after : List Placeholder) : Prop where
  /-- A number of 64 bits that is not below zero is captured, and read as itself. -/
  kept : ∀ vs ws (n : Int64), List.Forall₂ (fun q v => q.kind.Accepts v) before vs →
    List.Forall₂ (fun q v => q.kind.Accepts v) after ws → 0 ≤ n.toInt →
      ∃ url vars, r.url (vs ++ Text.ofInt n.toInt :: ws) = .ok url ∧ p.captures? url = some vars ∧
        vars.getInt k = .ok n.toInt
  /-- One below zero gives a path that is not matched. -/
  refused : ∀ vs ws (n : Int64), List.Forall₂ (fun q v => q.kind.Accepts v) before vs →
    List.Forall₂ (fun q v => q.kind.Accepts v) after ws → n.toInt < 0 →
      ∃ url, r.url (vs ++ Text.ofInt n.toInt :: ws) = .ok url ∧ p.isMatch url = false
  /-- Digits are captured on every path that is matched. They are read as the number they denote if it is within
  the limit; else the error has the name and the digits. -/
  read : ∀ path, p.isMatch path = true → ∃ vars raw, p.captures? path = some vars ∧
    vars.get? k = some raw ∧ Kind.Run Char.isDigit raw ∧
      (∀ v, vars.getInt k = .ok v ↔ v = Nat.ofDigitChars 10 raw 0 ∧ v ≤ maxInt) ∧
      (maxInt < Nat.ofDigitChars 10 raw 0 →
        vars.getInt k = .error (.unreadable k raw (.signed 64) .tooLarge))

section Numbers

variable {r : Route} {p : Pattern} {before after : List Placeholder} {k : Text} {vs ws : List Text}
variable (hp : r.pattern = .ok p)
variable (ht : ∀ q ∈ Template.placeholders r.path,
  isIdentifier q.name = true ∧ q.kind.isRaw = false ∧ q.kind ≠ .any)
variable (hk : Template.placeholders r.path = before ++ ⟨k, .int⟩ :: after)

include hk in
theorem length_of_split (hvs : List.Forall₂ (fun q v => q.kind.Accepts v) before vs)
    (hws : List.Forall₂ (fun q v => q.kind.Accepts v) after ws) (v : Text) :
    (Template.params r.path).length = (vs ++ v :: ws).length := by
  simp [Template.params, hk, hvs.length_eq, hws.length_eq]

include ht in
theorem slash_not_mem_of_accepts {ps : List Placeholder} (hps : ps ⊆ Template.placeholders r.path)
    (hvs : List.Forall₂ (fun q v => q.kind.Accepts v) ps vs) : ∀ v ∈ vs, '/' ∉ v := fun v hv =>
  (Template.Values.plain ⟨fun q hq => (ht q (hps hq)).2.1, hvs⟩ (fun q hq => (ht q (hps hq)).2.2) v hv).2

include hp ht hk

/-- What is put in the place of the placeholder is digits, if the path is matched. -/
theorem run_of_isMatch {v url : Text} (hvs : List.Forall₂ (fun q v => q.kind.Accepts v) before vs)
    (hws : List.Forall₂ (fun q v => q.kind.Accepts v) after ws) (hv : '/' ∉ v)
    (hfill : Template.fill? r.path (vs ++ v :: ws) = some url) (hmatch : p.isMatch url = true) :
    Kind.Run Char.isDigit v := by
  obtain ⟨values, haccepted, hfill', -⟩ :=
    Pattern.exists_captures?_of_isMatch (fun q hq => ⟨(ht q hq).1, (ht q hq).2.1⟩) hp hmatch
  have hslash : ∀ u ∈ vs ++ v :: ws, '/' ∉ u := by
    rw [List.forall_mem_append, List.forall_mem_cons]
    exact ⟨slash_not_mem_of_accepts ht (by simp [hk]) hvs, hv, slash_not_mem_of_accepts ht (by simp [hk]) hws⟩
  have hslash' := slash_not_mem_of_accepts ht (List.Subset.refl _) haccepted
  have heq := Template.take_eq_of_fill? (fun u hu => hslash u (List.mem_of_mem_take hu))
    (fun u hu => hslash' u (List.mem_of_mem_take hu)) hfill hfill'
  obtain ⟨vs', w, ws', rfl, hvs', hw, hws'⟩ := haccepted.exists_split hk
  rw [length_of_split hk hvs hws v, List.take_length, ← length_of_split hk hvs hws v,
    length_of_split hk hvs' hws' w, List.take_length] at heq
  obtain ⟨-, hrest⟩ := List.append_inj heq (hvs.length_eq.symm.trans hvs'.length_eq)
  rw [(List.cons.inj hrest).1]
  exact hw

/-- The decimal form of a number within the limit is captured and read as the number. -/
theorem exists_getInt_of_ofNat {n : Nat} (hvs : List.Forall₂ (fun q v => q.kind.Accepts v) before vs)
    (hws : List.Forall₂ (fun q v => q.kind.Accepts v) after ws) (hn : n ≤ maxInt) :
    ∃ url vars, r.url (vs ++ Text.ofNat n :: ws) = .ok url ∧ p.captures? url = some vars ∧
      vars.getInt k = .ok n := by
  have hraw : ∀ q ∈ Template.placeholders r.path, isIdentifier q.name = true ∧ q.kind.isRaw = false :=
    fun q hq => ⟨(ht q hq).1, (ht q hq).2.1⟩
  have hany : Template.slashCount (Template.placeholders r.path) = 0 :=
    List.countP_eq_zero.2 fun q hq => by simpa using (ht q hq).2.2
  obtain ⟨url, hfill⟩ := Template.exists_fill? (Nat.le_of_eq (length_of_split hk hvs hws (Text.ofNat n)))
  have haccepted := Pattern.Accepted.of_split hk hvs (Text.run_ofNat n) hws
  have hget := Pattern.get?_zip_of_split hk (Pattern.nodup_params_of_compile hraw hp)
    hvs.length_eq.symm (Text.ofNat n) ws
  refine ⟨url, _, url_eq_ok.2 hfill,
    Pattern.captures?_of_fill hraw hp (hany ▸ Nat.zero_le 1) haccepted hfill, ?_⟩
  rw [Vars.getInt_of_digits hget (Text.run_ofNat n), Text.ofNat, Nat.ofDigitChars_ten_toDigits, if_pos hn]

/-- A whole number put into the path of a route for a placeholder that takes digits is read back from it, up to
the largest number of 64 bits. -/
theorem keepsIntegers : r.KeepsIntegers p before k after where
  kept vs ws n hvs hws hn := by
    obtain ⟨m, hm⟩ := Int.eq_ofNat_of_zero_le hn
    have hlimit : m ≤ maxInt := by
      have hlt := n.toInt_lt
      rw [maxInt]
      omega
    rw [hm]
    exact exists_getInt_of_ofNat hp ht hk hvs hws hlimit
  refused vs ws n hvs hws hn := by
    obtain ⟨url, hfill⟩ :=
      Template.exists_fill? (Nat.le_of_eq (length_of_split hk hvs hws (Text.ofInt n.toInt)))
    refine ⟨url, url_eq_ok.2 hfill, Bool.eq_false_iff.2 fun hmatch => ?_⟩
    have hrun := run_of_isMatch hp ht hk hvs hws (Text.slash_not_mem_ofInt _) hfill hmatch
    exact absurd (Text.run_ofInt_iff.1 hrun) (Int.not_le.2 hn)
  read path hmatch := by
    have hraw : ∀ q ∈ Template.placeholders r.path, isIdentifier q.name = true ∧ q.kind.isRaw = false :=
      fun q hq => ⟨(ht q hq).1, (ht q hq).2.1⟩
    obtain ⟨values, haccepted, -, hcaptures⟩ := Pattern.exists_captures?_of_isMatch hraw hp hmatch
    obtain ⟨vs, raw, ws, rfl, hvs, hrun, -⟩ := haccepted.exists_split hk
    have hget := Pattern.get?_zip_of_split hk (Pattern.nodup_params_of_compile hraw hp)
      hvs.length_eq.symm raw ws
    refine ⟨_, raw, hcaptures, hget, hrun, fun v => ?_, fun hlarge => ?_⟩
    · rw [Vars.getInt_of_digits hget hrun]
      split <;> grind
    · rw [Vars.getInt_of_digits hget hrun, if_neg (Nat.not_le.2 hlarge)]

end Numbers

/-- The largest number of 64 bits comes back, and no number below zero is matched. -/
theorem getInt_of_largest :
    let r : Route := ⟨"post".toList, "post".toList, "/post/<<id:int>>/<<tag:slug>>".toList, true, {}⟩
    ∃ p vars, r.pattern = .ok p ∧
      r.url ["9223372036854775807".toList, "x-y".toList] = .ok "/post/9223372036854775807/x-y".toList ∧
      p.captures? "/post/9223372036854775807/x-y".toList = some vars ∧
      vars.getInt "id".toList = .ok 9223372036854775807 ∧ p.isMatch "/post/-1/x-y".toList = false := by
  intro r
  have hok : r.pattern.toOption.isSome := by decide +kernel
  obtain ⟨p, hp⟩ := Pattern.exists_ok_of_isSome hok
  have hkeeps : r.KeepsIntegers p [] "id".toList [⟨"tag".toList, .slug⟩] :=
    keepsIntegers hp (by decide) (by decide)
  have hws : List.Forall₂ (fun q v => q.kind.Accepts v) [(⟨"tag".toList, .slug⟩ : Placeholder)]
      ["x-y".toList] :=
    .cons ⟨by decide, List.all_eq_true.1 rfl⟩ .nil
  obtain ⟨url, vars, hurl, hcaptures, hget⟩ := hkeeps.kept [] _ Int64.maxValue .nil hws (by decide)
  obtain ⟨url', hurl', hmatch⟩ := hkeeps.refused [] _ (-1) .nil hws (by decide)
  cases hurl
  cases hurl'
  exact ⟨p, vars, hp, rfl, hcaptures, hget, hmatch⟩

end Route

end Signpost
