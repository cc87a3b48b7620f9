import Mathlib.Data.List.DropRight
import Signpost.Proofs.Integer
import Signpost.Proofs.Settings
import Signpost.Settings.Environment

/-!
# Settings in the environment

*Values.*  The variable of a switch writes one of eight words in any case, the variable of a limit writes digits,
perhaps after a plus sign, of a number of 64 bits; blanks at the ends do not count (`Setting.Writes`).  What is
read is exactly what is written so (`Setting.parse?_eq_some_iff`).

*The layer of the variables.*  A lookup gives a layer and, in the order of the settings, the variables with a
fault.  The first fault is reported.  If there is none, the layer is laid over the settings, and these are checked
(`Settings.withOverrides_eq`).

*Over one another.*  A variable without a fault hides the one under it, and one with a fault is reported in either
case.  So overriding twice is overriding once by both lookups together, faults and limits included
(`Settings.layered`).
-/

namespace Signpost

open Settings (flag? size? trimBlanks variableName)

/-! ## Blanks at the ends -/

/-- A text stands between blanks, and neither starts nor ends with one itself. -/
def IsCore (core raw : Text) : Prop := ∃ before after, raw = before ++ core ++ after ∧
  (∀ c ∈ before, Unicode.isWhitespace c = true) ∧ (∀ c ∈ after, Unicode.isWhitespace c = true) ∧
  (∀ c rest, core = c :: rest → Unicode.isWhitespace c = false) ∧
  (∀ rest c, core = rest ++ [c] → Unicode.isWhitespace c = false)

theorem dropWhile_of_core {p : Char → Bool} {before core : Text} (hbefore : ∀ c ∈ before, p c = true)
    (hcore : ∀ c rest, core = c :: rest → p c = false) : (before ++ core).dropWhile p = core := by
  rw [List.dropWhile_append_of_pos hbefore]
  cases core with
  | nil => rfl
  | cons c rest => exact List.dropWhile_cons_of_neg (by simp [hcore c rest rfl])

theorem rdropWhile_of_core {p : Char → Bool} {core after : Text} (hafter : ∀ c ∈ after, p c = true)
    (hcore : ∀ rest c, core = rest ++ [c] → p c = false) : (core ++ after).rdropWhile p = core := by
  have hreverse : ∀ c rest, core.reverse = c :: rest → p c = false := fun c rest h =>
    hcore rest.reverse c (by rw [← List.reverse_cons, ← h, List.reverse_reverse])
  rw [List.rdropWhile, List.reverse_append, dropWhile_of_core (by simpa using hafter) hreverse,
    List.reverse_reverse]

theorem isCore_trimBlanks (raw : Text) : IsCore (trimBlanks raw) raw := by
  let p := Unicode.isWhitespace
  have hend : trimBlanks raw ++ (raw.dropWhile p).rtakeWhile p = raw.dropWhile p :=
    List.rdropWhile_append_rtakeWhile
  refine ⟨raw.takeWhile p, (raw.dropWhile p).rtakeWhile p, ?_, fun _ => List.mem_takeWhile_imp,
    fun _ => List.mem_rtakeWhile_imp, fun c rest hstart => ?_, fun rest c hlast => ?_⟩
  · rw [List.append_assoc, hend, List.takeWhile_append_dropWhile]
  · -- What comes first after trimming the end came first before.
    have hhead := List.head?_dropWhile_not p raw
    rw [← hend, hstart] at hhead
    exact hhead
  · have hcore : (raw.dropWhile p).rdropWhile p = rest ++ [c] := hlast
    have hne : (raw.dropWhile p).rdropWhile p ≠ [] := by simp [hcore]
    have hnot := List.rdropWhile_last_not p _ hne
    simp only [hcore, List.getLast_concat, Bool.not_eq_true] at hnot
    exact hnot

/-- Trimming leaves what stands between the blanks. -/
theorem isCore_iff {core raw : Text} : IsCore core raw ↔ core = trimBlanks raw := by
  refine ⟨?_, fun h => h ▸ isCore_trimBlanks raw⟩
  rintro ⟨before, after, rfl, hbefore, hafter, hstart, hend⟩
  have htrim : trimBlanks (before ++ core ++ after) =
      ((before ++ core ++ after).dropWhile Unicode.isWhitespace).rdropWhile Unicode.isWhitespace := rfl
  rw [htrim, List.append_assoc]
  cases core with
  | nil =>
      have hall : ∀ c ∈ before ++ ([] ++ after), Unicode.isWhitespace c = true := by
        simpa [or_imp, forall_and] using ⟨hbefore, hafter⟩
      rw [List.dropWhile_eq_nil_iff.2 hall]
      rfl
  | cons c rest =>
      have hfirst : ∀ d more, c :: rest ++ after = d :: more → Unicode.isWhitespace d = false := by
        rintro d more heq
        cases heq
        exact hstart c rest rfl
      rw [dropWhile_of_core hbefore hfirst, rdropWhile_of_core hafter hend]

/-! ## Values -/

namespace Setting

/-- The words for a truth value. -/
def words : Bool → List Text
  | true => ["1".toList, "true".toList, "yes".toList, "on".toList]
  | false => ["0".toList, "false".toList, "no".toList, "off".toList]

/-- A text writes a value: between blanks stands a word for it, in any case, or its digits. -/
def Writes : (x : Setting) → Text → x.Val → Prop
  | switch _, raw, (on : Bool) => ∃ core, IsCore core raw ∧ Text.asciiLower core ∈ words on
  | limit _, raw, (n : Nat) => ∃ core digits, IsCore core raw ∧ (core = digits ∨ core = '+' :: digits) ∧
      Kind.Run Char.isDigit digits ∧ n = Nat.ofDigitChars 10 digits 0 ∧ n < 0x10000000000000000

/-- The value that a text writes. -/
def parse? : (x : Setting) → Text → Option x.Val
  | switch _, raw => flag? raw
  | limit _, raw => size? raw

/-- The name of the variable of a setting. -/
def key (x : Setting) : Text := variableName x.name

end Setting

theorem Settings.flag?_eq_some_iff {raw : Text} {on : Bool} : flag? raw = some on ↔
    Text.asciiLower (trimBlanks raw) ∈ Setting.words on := by
  have hdisjoint : ∀ w ∈ Setting.words false, w ∉ Setting.words true := by decide
  have hflag : flag? raw = if Text.asciiLower (trimBlanks raw) ∈ Setting.words true then some true
      else if Text.asciiLower (trimBlanks raw) ∈ Setting.words false then some false else none := by
    simp only [← List.contains_iff_mem]
    rfl
  rw [hflag]
  cases on with
  | true =>
      split
      · next h => exact iff_of_true rfl h
      · next h => split <;> simp [h]
  | false =>
      split
      · next h => exact iff_of_false (by simp) fun hfalse => hdisjoint _ hfalse h
      · split
        · next h => exact iff_of_true rfl h
        · next h => exact iff_of_false (by simp) h

theorem Settings.size?_eq_some_iff {raw : Text} {n : Nat} : size? raw = some n ↔
    ∃ digits, (trimBlanks raw = digits ∨ trimBlanks raw = '+' :: digits) ∧ Kind.Run Char.isDigit digits ∧
      n = Nat.ofDigitChars 10 digits 0 ∧ n < 0x10000000000000000 := by
  have hmax : Value.countOfBits 64 - 1 = 0xFFFFFFFFFFFFFFFF := rfl
  rw [size?, hmax]
  constructor
  · intro h
    split at h
    · next i hi =>
        cases h
        obtain ⟨digits, hcore, hrun, hle, rfl⟩ := Value.readInt_none_eq_ok_iff.1 hi
        exact ⟨digits, hcore, hrun, rfl, Nat.lt_succ_of_le hle⟩
    · cases h
  · rintro ⟨digits, hcore, hrun, rfl, hlt⟩
    rw [Value.readInt_none_eq_ok_iff.2 ⟨digits, hcore, hrun, Nat.le_of_lt_succ hlt, rfl⟩]
    rfl

namespace Setting

variable {x : Setting} {raw : Text}

/-- What is read from a text is what it writes. -/
theorem parse?_eq_some_iff {v : x.Val} : x.parse? raw = some v ↔ x.Writes raw v := by
  cases x with
  | switch which =>
      simp only [Writes, isCore_iff, exists_eq_left]
      exact Settings.flag?_eq_some_iff
  | limit which =>
      simp only [Writes, isCore_iff]
      refine Settings.size?_eq_some_iff.trans ?_
      simp

theorem exists_writes_iff : (∃ v, x.Writes raw v) ↔ (x.parse? raw).isSome := by
  rw [Option.isSome_iff_exists]
  exact exists_congr fun _ => parse?_eq_some_iff.symm

theorem setFrom?_eq (s : Settings) (raw : Text) (x : Setting) :
    s.setFrom? raw x = (x.parse? raw).map (s.put x) := by
  cases x <;> rfl

/-! ## The layer of the variables -/

/-- The fault of the variable of a setting. -/
def fault? (lookup : Text → Option Text) (x : Setting) : Option SettingsError :=
  (lookup x.key).bind fun raw => if (x.parse? raw).isSome then none else some (.badVariable x.key raw)

/-- What the variables set. -/
def fromVariables (lookup : Text → Option Text) : Layer := fun x => (lookup x.key).bind x.parse?

end Setting

namespace Settings

open Setting (fault? fromVariables)

variable {s t : Settings} {lookup : Text → Option Text}

theorem overrideOne_eq (lookup : Text → Option Text) (s : Settings) (x : Setting) : overrideOne lookup s x =
    (fault? lookup x).elim (.ok (s.putIfAny x (fromVariables lookup x))) .error := by
  have hkey : variableName x.name = x.key := rfl
  rw [overrideOne, fault?, fromVariables, hkey]
  cases lookup x.key with
  | none => rfl
  | some raw =>
      dsimp only
      rw [Setting.setFrom?_eq, Option.bind_some, Option.bind_some]
      cases x.parse? raw <;> rfl

/-- The first fault of a variable, or the settings under the layer of the variables, checked. -/
theorem withOverrides_eq (s : Settings) (lookup : Text → Option Text) : s.withOverrides lookup =
    (Setting.all.findSome? (fault? lookup)).elim (s.overlay (fromVariables lookup)).checked .error := by
  rw [withOverrides, foldlM_of_faults (overrideOne_eq lookup)]
  cases Setting.all.findSome? (fault? lookup) <;> rfl

/-! ## Results -/

theorem fault?_eq_none_iff {x : Setting} : fault? lookup x = none ↔
    ∀ raw, lookup x.key = some raw → ∃ v, x.Writes raw v := by
  unfold fault?
  cases lookup x.key with
  | none => simp
  | some raw =>
      rw [Option.bind_some]
      constructor
      · rintro h _ ⟨⟩
        split at h
        · next hparses => exact Setting.exists_writes_iff.2 hparses
        · cases h
      · intro h
        exact if_pos (Setting.exists_writes_iff.1 (h raw rfl))

theorem fault?_eq_some_iff {x : Setting} {e : SettingsError} : fault? lookup x = some e ↔
    ∃ raw, lookup x.key = some raw ∧ (∀ v, ¬x.Writes raw v) ∧ e = .badVariable x.key raw := by
  unfold fault?
  cases lookup x.key with
  | none => simp
  | some raw =>
      rw [Option.bind_some]
      constructor
      · intro h
        split at h
        · cases h
        · next hnot =>
            cases h
            exact ⟨raw, rfl, fun v hv => hnot (Setting.exists_writes_iff.1 ⟨v, hv⟩), rfl⟩
      · rintro ⟨_, ⟨⟩, hnot, rfl⟩
        exact if_neg fun hparses => (Setting.exists_writes_iff.2 hparses).elim hnot

/-- Of every setting the value is what its variable writes, or what it was if there is no such variable. -/
structure Overrides (s : Settings) (lookup : Text → Option Text) (t : Settings) : Prop where
  /-- A variable is written so that the value is the new one. -/
  written : ∀ (x : Setting) raw, lookup x.key = some raw → x.Writes raw (t.get x)
  /-- Without a variable the value is the old one. -/
  kept : ∀ x : Setting, lookup x.key = none → t.get x = s.get x

theorem overrides_iff : Overrides s lookup t ↔
    (∀ x, fault? lookup x = none) ∧ t = s.overlay (fromVariables lookup) := by
  constructor
  · rintro ⟨hwritten, hkept⟩
    refine ⟨fun x => fault?_eq_none_iff.2 fun raw hraw => ⟨_, hwritten x raw hraw⟩, ext_get fun x => ?_⟩
    rw [get_overlay, fromVariables]
    cases hlookup : lookup x.key with
    | none => exact hkept x hlookup
    | some raw =>
        rw [Option.bind_some, Setting.parse?_eq_some_iff.2 (hwritten x raw hlookup)]
        rfl
  · rintro ⟨hfaults, rfl⟩
    refine ⟨fun x raw hraw => ?_, fun x hnone => ?_⟩
    · obtain ⟨v, hv⟩ := fault?_eq_none_iff.1 (hfaults x) raw hraw
      rw [get_overlay, fromVariables, hraw, Option.bind_some, Setting.parse?_eq_some_iff.2 hv]
      exact hv
    · rw [get_overlay, fromVariables, hnone]
      rfl

/-- Why variables are refused: the first of them that writes no value, and if all do, the first limit that is zero
under them. -/
inductive Refused (s : Settings) (lookup : Text → Option Text) : SettingsError → Prop where
  /-- A variable writes no value, and all before it do. -/
  | badVariable {before after : List Setting} {x : Setting} {raw : Text} :
      Setting.all = before ++ x :: after →
      (∀ y ∈ before, ∀ raw, lookup y.key = some raw → ∃ v, y.Writes raw v) →
      lookup x.key = some raw → (∀ v, ¬x.Writes raw v) → Refused s lookup (.badVariable x.key raw)
  /-- A limit is zero, and those before it are not. -/
  | zeroLimit {t : Settings} {before after : List Limit} {l : Limit} : Overrides s lookup t →
      [Limit.patternLength, .pathSegments, .regexSize] = before ++ l :: after →
      (∀ l' ∈ before, t.limit l' ≠ 0) → t.limit l = 0 → Refused s lookup (.zeroLimit l)

/-- The results of overriding settings by variables. -/
structure Layered (s : Settings) (lookup : Text → Option Text) : Prop where
  /-- There are settings as the variables say exactly if every variable writes a value. -/
  exists_iff : (∃ t, Overrides s lookup t) ↔ ∀ (x : Setting) raw, lookup x.key = some raw → ∃ v, x.Writes raw v
  /-- These are the result exactly if none of their limits is zero. -/
  ok_iff : ∀ t, s.withOverrides lookup = .ok t ↔ Overrides s lookup t ∧ ∀ l, t.limit l ≠ 0
  /-- Every other result is an error, for the first reason. -/
  error_iff : ∀ e, s.withOverrides lookup = .error e ↔ Refused s lookup e
  /-- Overriding again is overriding by both lookups, the later one first. -/
  composes : ∀ t lookup', s.withOverrides lookup = .ok t →
    t.withOverrides lookup' = s.withOverrides fun key => (lookup' key).or (lookup key)
  /-- Overriding again by the same lookup changes nothing. -/
  again : ∀ t, s.withOverrides lookup = .ok t → t.withOverrides lookup = .ok t

theorem findSome?_fault?_eq_none_iff : Setting.all.findSome? (fault? lookup) = none ↔
    ∀ x, fault? lookup x = none := by
  rw [List.findSome?_eq_none_iff]
  exact ⟨fun h x => h x x.mem_all, fun h x _ => h x⟩

theorem withOverrides_eq_ok_iff : s.withOverrides lookup = .ok t ↔
    Overrides s lookup t ∧ ∀ l, t.limit l ≠ 0 := by
  rw [withOverrides_eq, overrides_iff, ← findSome?_fault?_eq_none_iff]
  cases Setting.all.findSome? (fault? lookup) with
  | some e => simp
  | none =>
      rw [Option.elim_none, checked_eq_ok_iff]
      constructor
      · rintro ⟨rfl, hlimits⟩
        exact ⟨⟨rfl, rfl⟩, hlimits⟩
      · rintro ⟨⟨-, rfl⟩, hlimits⟩
        exact ⟨rfl, hlimits⟩

theorem withOverrides_eq_error_iff {e : SettingsError} : s.withOverrides lookup = .error e ↔
    Refused s lookup e := by
  rw [withOverrides_eq]
  constructor
  · intro h
    cases hfault : Setting.all.findSome? (fault? lookup) with
    | some e' =>
        rw [hfault] at h
        cases h
        obtain ⟨before, x, after, hall, hx, hbefore⟩ := List.findSome?_eq_some_iff.1 hfault
        obtain ⟨raw, hraw, hnot, rfl⟩ := fault?_eq_some_iff.1 hx
        exact .badVariable hall (fun y hy => fault?_eq_none_iff.1 (hbefore y hy)) hraw hnot
    | none =>
        rw [hfault, Option.elim_none, checked_eq_error_iff] at h
        obtain ⟨before, l, after, hlimits, rfl, hzero, hbefore⟩ := h
        exact .zeroLimit (overrides_iff.2 ⟨findSome?_fault?_eq_none_iff.1 hfault, rfl⟩) hlimits hbefore hzero
  · intro h
    cases h with
    | badVariable hall hbefore hraw hnot =>
        have hfault : Setting.all.findSome? (fault? lookup) = some (.badVariable _ _) :=
          List.findSome?_eq_some_iff.2 ⟨_, _, _, hall, fault?_eq_some_iff.2 ⟨_, hraw, hnot, rfl⟩,
            fun y hy => fault?_eq_none_iff.2 (hbefore y hy)⟩
        rw [hfault]
        rfl
    | zeroLimit ht hlimits hbefore hzero =>
        obtain ⟨hfaults, rfl⟩ := overrides_iff.1 ht
        rw [findSome?_fault?_eq_none_iff.2 hfaults, Option.elim_none, checked_eq_error_iff]
        exact ⟨_, _, _, hlimits, rfl, hzero, hbefore⟩

/-- Overriding twice is overriding once by both lookups. -/
theorem withOverrides_withOverrides (h : s.withOverrides lookup = .ok t) (lookup' : Text → Option Text) :
    t.withOverrides lookup' = s.withOverrides fun key => (lookup' key).or (lookup key) := by
  obtain ⟨hfaults, rfl⟩ := overrides_iff.1 (withOverrides_eq_ok_iff.1 h).1
  -- A variable of the first lookup has no fault, so the faults are those of the second.
  have hfault : fault? (fun key => (lookup' key).or (lookup key)) = fault? lookup' := by
    funext x
    have hx := hfaults x
    unfold fault? at hx ⊢
    dsimp only
    cases lookup' x.key with
    | none => exact hx
    | some raw => rfl
  rw [withOverrides_eq, withOverrides_eq, hfault]
  cases hfirst : Setting.all.findSome? (fault? lookup') with
  | some e => rfl
  | none =>
      rw [Option.elim_none, Option.elim_none, overlay_overlay]
      congr 2
      funext x
      have hx := fault?_eq_none_iff.1 (findSome?_fault?_eq_none_iff.1 hfirst x)
      simp only [fromVariables]
      cases hlookup : lookup' x.key with
      | none => rfl
      | some raw =>
          obtain ⟨v, hv⟩ := hx raw hlookup
          simp only [Option.bind_some, Option.some_or, Setting.parse?_eq_some_iff.2 hv]

/-- For all settings and every lookup. -/
theorem layered (s : Settings) (lookup : Text → Option Text) : s.Layered lookup where
  exists_iff := by
    simp only [overrides_iff, fault?_eq_none_iff, exists_and_left, exists_eq, and_true]
  ok_iff _ := withOverrides_eq_ok_iff
  error_iff _ := withOverrides_eq_error_iff
  composes _ lookup' h := withOverrides_withOverrides h lookup'
  again t h := by
    rw [withOverrides_withOverrides h]
    simpa only [Option.or_self] using h

/-- The variables, in the order in which they are looked up. -/
example : Setting.all.map Setting.key =
    ["TRELLIS_SKIP_TRAILING_SLASH".toList, "TRELLIS_COMPILE_ON_REGISTER".toList,
      "TRELLIS_MAX_PATTERN_LENGTH".toList, "TRELLIS_MAX_PATH_SEGMENTS".toList,
      "TRELLIS_REGEX_SIZE_LIMIT".toList] := by decide

end Settings

end Signpost
