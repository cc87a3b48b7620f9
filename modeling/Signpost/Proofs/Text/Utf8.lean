import Mathlib.Tactic.SplitIfs
import Signpost.Text.Utf8

/-!
# Bytes read back

The bytes of a text are read back as the text (`Text.ofBytes_toBytes`).

*A character at a time.*  Between characters the bytes of a character are read as the character
(`Text.readBytes_none_char`).  Anywhere else the first of them does not continue what is there, since only
bytes from `0x80` to `0xBF` do (`Text.Waits`), so the replacement for what was broken off comes before it
(`Text.readBytes_char`).  So reading bytes can be parted before any character (`Text.readBytes_append_char`).

*No more characters than bytes.*  A byte gives a character, starts one or goes on with one.  It gives two
only when the first of them replaces what was broken off, so counting that one beforehand no byte gives
more than one (`Text.length_nextByte`).
-/

namespace Signpost.Text

/-- What a character of which bytes are still to come is replaced by. -/
def brokenOff : Option Partial → Text
  | none => []
  | some _ => [replacement]

/-- The next byte has to be one with which no character starts. -/
def Waits (s : Option Partial) : Prop := ∀ p, s = some p → 0x80 ≤ p.low ∧ p.high ≤ 0xBF

theorem waits_none : Waits none := fun _ h => by cases h

theorem waits_some {p : Partial} (h : 0x80 ≤ p.low ∧ p.high ≤ 0xBF) : Waits (some p) := fun _ hp => by
  cases hp
  exact h

theorem waits_firstByte (b : Nat) : Waits (firstByte b).2 := by
  unfold firstByte
  split_ifs
  all_goals first
    | exact waits_none
    | exact waits_some ⟨by simp, by simp⟩

theorem waits_nextByte (b : Nat) (s : Option Partial) : Waits (nextByte b s).2 := by
  cases s with
  | none => exact waits_firstByte b
  | some p =>
      rw [nextByte]
      split
      · dsimp only
        split
        · exact waits_none
        · exact waits_some ⟨Nat.le_refl _, Nat.le_refl _⟩
      · exact waits_firstByte b

/-! ## Counting characters -/

theorem length_firstByte (b : Nat) : (firstByte b).1.length + (brokenOff (firstByte b).2).length = 1 := by
  unfold firstByte
  split_ifs <;> rfl

/-- A byte gives at most one character, if what is broken off is counted beforehand. -/
theorem length_nextByte (b : Nat) (s : Option Partial) :
    (nextByte b s).1.length + (brokenOff (nextByte b s).2).length ≤ (brokenOff s).length + 1 := by
  cases s with
  | none => exact Nat.le_of_eq (by rw [nextByte, length_firstByte]; rfl)
  | some p =>
      rw [nextByte]
      split
      · dsimp only
        split <;> simp [brokenOff]
      · have h := length_firstByte b
        dsimp only
        simp only [List.length_cons, brokenOff, List.length_nil] at h ⊢
        omega

/-! ## Reading the bytes of a character -/

theorem readBytes_cons (s : Option Partial) (b : UInt8) (rest : List UInt8) :
    readBytes s (b :: rest) =
      (nextByte b.toNat s).1 ++ readBytes (nextByte b.toNat s).2 rest := by
  rw [readBytes]

/-- A byte that starts a character ends the one before it. -/
theorem readBytes_start {s : Option Partial} (hs : Waits s) {b : UInt8}
    (hb : b.toNat < 0x80 ∨ 0xBF < b.toNat) (rest : List UInt8) :
    readBytes s (b :: rest) = brokenOff s ++ readBytes none (b :: rest) := by
  cases s with
  | none => rfl
  | some p =>
      have hrange := hs p rfl
      have hout : ¬(p.low ≤ b.toNat ∧ b.toNat ≤ p.high) := by omega
      have hnext : nextByte b.toNat (some p) =
          (replacement :: (firstByte b.toNat).1, (firstByte b.toNat).2) := by
        rw [nextByte, if_neg hout]
      rw [readBytes_cons, hnext]
      rfl

theorem nextByte_more {p : Partial} {b : Nat} (hb : p.low ≤ b ∧ b ≤ p.high) (hmissing : 1 < p.missing) :
    nextByte b (some p) = ([], some ⟨p.value * 64 + b % 64, p.missing - 1, 0x80, 0xBF⟩) := by
  rw [nextByte, if_pos hb]
  dsimp only
  rw [if_neg (Nat.not_le.2 hmissing)]

theorem nextByte_last {p : Partial} {b : Nat} (hb : p.low ≤ b ∧ b ≤ p.high) (hmissing : p.missing = 1) :
    nextByte b (some p) = ([Char.ofNat (p.value * 64 + b % 64)], none) := by
  rw [nextByte, if_pos hb]
  dsimp only
  rw [if_pos (Nat.le_of_eq hmissing)]

theorem firstByte_one {b : Nat} (h : b < 0x80) : firstByte b = ([Char.ofNat b], none) := by
  rw [firstByte, if_pos h]

theorem firstByte_two {b : Nat} (h : 0xC2 ≤ b ∧ b < 0xE0) :
    firstByte b = ([], some ⟨b % 32, 1, 0x80, 0xBF⟩) := by
  rw [firstByte, if_neg (by omega), if_neg (by omega), if_pos h.2]

theorem firstByte_three {b : Nat} (h : 0xE0 ≤ b ∧ b < 0xF0) :
    firstByte b = ([], some ⟨b % 16, 2, if b = 0xE0 then 0xA0 else 0x80, if b = 0xED then 0x9F else 0xBF⟩) := by
  rw [firstByte, if_neg (by omega), if_neg (by omega), if_neg (by omega)]
  by_cases hlow : b = 0xE0
  · rw [if_pos hlow, if_pos hlow, if_neg (by omega)]
  · by_cases hhigh : b = 0xED
    · rw [if_neg hlow, if_pos hhigh, if_neg hlow, if_pos hhigh]
    · rw [if_neg hlow, if_neg hhigh, if_pos h.2, if_neg hlow, if_neg hhigh]

theorem firstByte_four {b : Nat} (h : 0xF0 ≤ b ∧ b ≤ 0xF4) :
    firstByte b = ([], some ⟨b % 8, 3, if b = 0xF0 then 0x90 else 0x80, if b = 0xF4 then 0x8F else 0xBF⟩) := by
  rw [firstByte, if_neg (by omega), if_neg (by omega), if_neg (by omega), if_neg (by omega),
    if_neg (by omega), if_neg (by omega)]
  by_cases hlow : b = 0xF0
  · rw [if_pos hlow, if_pos hlow, if_neg (by omega)]
  · by_cases hhigh : b = 0xF4
    · rw [if_neg hlow, if_neg (by omega), if_pos hhigh, if_neg hlow, if_pos hhigh]
    · rw [if_neg hlow, if_pos (by omega), if_neg hlow, if_neg hhigh]

theorem toNat_valid (c : Char) : c.toNat < 0xD800 ∨ 0xDFFF < c.toNat ∧ c.toNat < 0x110000 := c.valid

theorem toNat_ofNat {n : Nat} (h : n < 256) : (UInt8.ofNat n).toNat = n := UInt8.toNat_ofNat_of_lt' h

/-- The bytes of a character by its code point. -/
theorem utf8EncodeChar_cases (c : Char) :
    (c.toNat < 0x80 ∧ String.utf8EncodeChar c = [UInt8.ofNat c.toNat]) ∨
    (0x80 ≤ c.toNat ∧ c.toNat < 0x800 ∧ String.utf8EncodeChar c =
      [UInt8.ofNat (c.toNat / 64 % 32 + 0xC0), UInt8.ofNat (c.toNat % 64 + 0x80)]) ∨
    (0x800 ≤ c.toNat ∧ c.toNat < 0x10000 ∧ String.utf8EncodeChar c =
      [UInt8.ofNat (c.toNat / 4096 % 16 + 0xE0), UInt8.ofNat (c.toNat / 64 % 64 + 0x80),
        UInt8.ofNat (c.toNat % 64 + 0x80)]) ∨
    (0x10000 ≤ c.toNat ∧ String.utf8EncodeChar c =
      [UInt8.ofNat (c.toNat / 262144 % 8 + 0xF0), UInt8.ofNat (c.toNat / 4096 % 64 + 0x80),
        UInt8.ofNat (c.toNat / 64 % 64 + 0x80), UInt8.ofNat (c.toNat % 64 + 0x80)]) := by
  unfold String.utf8EncodeChar
  dsimp only
  rw [show c.val.toNat = c.toNat from rfl]
  split_ifs with h₁ h₂ h₃
  · exact .inl ⟨by omega, rfl⟩
  · exact .inr (.inl ⟨by omega, by omega, rfl⟩)
  · exact .inr (.inr (.inl ⟨by omega, by omega, rfl⟩))
  · exact .inr (.inr (.inr ⟨by omega, rfl⟩))

/-- Between characters the bytes of a character are read as the character. -/
theorem readBytes_none_char (c : Char) (rest : List UInt8) :
    readBytes none (String.utf8EncodeChar c ++ rest) = c :: readBytes none rest := by
  have hvalid := toNat_valid c
  rcases utf8EncodeChar_cases c with ⟨hc, hbytes⟩ | ⟨hlow, hhigh, hbytes⟩ | ⟨hlow, hhigh, hbytes⟩ |
    ⟨hlow, hbytes⟩
  · rw [hbytes, List.singleton_append, readBytes_cons, toNat_ofNat (by omega), nextByte,
      firstByte_one hc, Char.ofNat_toNat]
    rfl
  · rw [hbytes]
    simp only [List.cons_append, List.nil_append, readBytes_cons]
    rw [toNat_ofNat (by omega), toNat_ofNat (by omega), nextByte, firstByte_two (by omega)]
    dsimp only
    rw [nextByte_last (by dsimp only; omega) rfl]
    dsimp only
    rw [show (c.toNat / 64 % 32 + 0xC0) % 32 * 64 + (c.toNat % 64 + 0x80) % 64 = c.toNat by omega,
      Char.ofNat_toNat]
    rfl
  · rw [hbytes]
    simp only [List.cons_append, List.nil_append, readBytes_cons]
    rw [toNat_ofNat (by omega), toNat_ofNat (by omega), toNat_ofNat (by omega), nextByte,
      firstByte_three (by omega)]
    dsimp only
    rw [nextByte_more (by dsimp only; split_ifs <;> omega) (by simp)]
    dsimp only
    rw [nextByte_last (by dsimp only; omega) rfl]
    dsimp only
    rw [show ((c.toNat / 4096 % 16 + 0xE0) % 16 * 64 + (c.toNat / 64 % 64 + 0x80) % 64) * 64 +
      (c.toNat % 64 + 0x80) % 64 = c.toNat by omega, Char.ofNat_toNat]
    rfl
  · rw [hbytes]
    simp only [List.cons_append, List.nil_append, readBytes_cons]
    rw [toNat_ofNat (by omega), toNat_ofNat (by omega), toNat_ofNat (by omega), toNat_ofNat (by omega),
      nextByte, firstByte_four (by omega)]
    dsimp only
    rw [nextByte_more (by dsimp only; split_ifs <;> omega) (by simp)]
    dsimp only
    rw [nextByte_more (by dsimp only; omega) (by simp)]
    dsimp only
    rw [nextByte_last (by dsimp only; omega) rfl]
    dsimp only
    rw [show (((c.toNat / 262144 % 8 + 0xF0) % 8 * 64 + (c.toNat / 4096 % 64 + 0x80) % 64) * 64 +
      (c.toNat / 64 % 64 + 0x80) % 64) * 64 + (c.toNat % 64 + 0x80) % 64 = c.toNat by omega,
      Char.ofNat_toNat]
    rfl

/-- Anywhere the bytes of a character are read as the character, after what was broken off. -/
theorem readBytes_char {s : Option Partial} (hs : Waits s) (c : Char) (rest : List UInt8) :
    readBytes s (String.utf8EncodeChar c ++ rest) = brokenOff s ++ c :: readBytes none rest := by
  obtain ⟨b, bytes, hbytes, hb⟩ : ∃ b bytes, String.utf8EncodeChar c = b :: bytes ∧
      (b.toNat < 0x80 ∨ 0xBF < b.toNat) := by
    rcases utf8EncodeChar_cases c with ⟨hc, hbytes⟩ | ⟨-, -, hbytes⟩ | ⟨-, -, hbytes⟩ | ⟨-, hbytes⟩
    · exact ⟨_, _, hbytes, .inl (by rw [toNat_ofNat (by omega)]; exact hc)⟩
    · exact ⟨_, _, hbytes, .inr (by rw [toNat_ofNat (by omega)]; omega)⟩
    · exact ⟨_, _, hbytes, .inr (by rw [toNat_ofNat (by omega)]; omega)⟩
    · exact ⟨_, _, hbytes, .inr (by rw [toNat_ofNat (by omega)]; omega)⟩
  rw [← readBytes_none_char, hbytes, List.cons_append, readBytes_start hs hb]

/-- Whatever bytes come before it, a character is read as the character, and the rest after it by itself. -/
theorem readBytes_append_char {s : Option Partial} (hs : Waits s) (bytes : List UInt8) (c : Char)
    (rest : List UInt8) : readBytes s (bytes ++ (String.utf8EncodeChar c ++ rest)) =
      readBytes s bytes ++ c :: readBytes none rest := by
  induction bytes generalizing s with
  | nil =>
      have hend : readBytes s [] = brokenOff s := by cases s <;> rfl
      rw [List.nil_append, readBytes_char hs, hend]
  | cons b bytes ih =>
      rw [List.cons_append, readBytes_cons, readBytes_cons, ih (waits_nextByte b.toNat s), List.append_assoc]

/-- The bytes of a text are read back as the text. -/
theorem ofBytes_toBytes (t : Text) : ofBytes (toBytes t) = t := by
  rw [ofBytes, toBytes]
  induction t with
  | nil => rfl
  | cons c t ih => rw [List.flatMap_cons, readBytes_none_char, ih]

end Signpost.Text
