import Mathlib.Tactic.SplitIfs
import Signpost.Target.Percent
import Signpost.Proofs.Text.Utf8

/-!
# Escapes

Decoding undoes encoding but for the escapes that were there before: an encoded text is decoded to what the
text itself is decoded to (`Percent.decode_encode`).  An encoded text holds nothing that has to be encoded, so
encoding it again changes nothing (`Percent.encode_encode`).

*In parts.*  Decoding goes on by itself at a character that no escape holds, also where an escape or a character
of several bytes is broken off before it (`Percent.decodeText_append`).

*Escapes in a text.*  A text without escapes is decoded to itself (`Percent.decodeText_eq_self`).  Of an
escape three characters are decoded to one at most, so a text with escapes comes back shorter by two
characters at least (`Percent.length_decodeText`).
-/

namespace Signpost.Percent

/-- Whether a text starts with an escape. -/
def startsEscape : Text → Bool
  | '%' :: h :: l :: _ => (byte? h l).isSome
  | _ => false

/-- Whether there is an escape in a text. -/
def hasEscape : Text → Bool
  | [] => false
  | c :: rest => startsEscape (c :: rest) || hasEscape rest

/-! ## Digits of escapes -/

theorem hexDigit?_of_mustEncode {c : Char} (h : mustEncode c = true) : hexDigit? c = none := by
  have hchars : ∀ d ∈ " \"<>\\^\x60\x7b|\x7d".toList, (hexDigit? d).isNone = true :=
    List.all_eq_true.1 (by decide)
  have hrange : c.toNat < 48 ∨ 102 < c.toNat → hexDigit? c = none := by
    intro hc
    have hout : ∀ low high : Char, 48 ≤ low.toNat → high.toNat ≤ 102 → ¬(low ≤ c ∧ c ≤ high) := by
      rintro low high hlow hhigh ⟨hlc, hch⟩
      have hlc : low.toNat ≤ c.toNat := UInt32.le_iff_toNat_le.1 hlc
      have hch : c.toNat ≤ high.toNat := UInt32.le_iff_toNat_le.1 hch
      omega
    rw [hexDigit?, if_neg (hout _ _ (by decide) (by decide)), if_neg (hout _ _ (by decide) (by decide)),
      if_neg (hout _ _ (by decide) (by decide))]
  simp only [mustEncode, Bool.or_eq_true, decide_eq_true_eq, beq_iff_eq, List.contains_iff_mem] at h
  rcases h with ((h | h) | h) | h
  · exact hrange (by omega)
  · exact hrange (by omega)
  · exact hrange (by omega)
  · exact Option.isNone_iff_eq_none.1 (hchars c h)

theorem startsEscape_of_first {h : Char} (hh : hexDigit? h = none) (rest : Text) :
    startsEscape ('%' :: h :: rest) = false := by
  cases rest with
  | nil => rfl
  | cons l rest => rw [startsEscape, byte?, hh]; rfl

theorem startsEscape_of_second {h l : Char} (hl : hexDigit? l = none) (rest : Text) :
    startsEscape ('%' :: h :: l :: rest) = false := by
  rw [startsEscape, byte?, hl]
  cases hexDigit? h <;> rfl

theorem startsEscape_of_ne {c : Char} (hc : c ≠ '%') (rest : Text) : startsEscape (c :: rest) = false := by
  unfold startsEscape
  split
  · next heq => exact absurd (List.cons.inj heq).1 hc
  · rfl

theorem hexDigit?_hexCharUpper : ∀ n : Fin 16, hexDigit? (hexCharUpper n) = some n.val := by decide

theorem byte?_hexCharUpper (b : UInt8) :
    byte? (hexCharUpper (b.toNat / 16)) (hexCharUpper (b.toNat % 16)) = some b := by
  have hlt : b.toNat < 256 := b.toNat_lt
  have hhigh := hexDigit?_hexCharUpper ⟨b.toNat / 16, by omega⟩
  have hlow := hexDigit?_hexCharUpper ⟨b.toNat % 16, by omega⟩
  dsimp only at hhigh hlow
  rw [byte?, hhigh, hlow]
  dsimp only
  rw [Nat.div_add_mod, UInt8.ofNat_toNat]

theorem digits_of_byte? {h l : Char} {b : UInt8} (hb : byte? h l = some b) :
    hexDigit? h ≠ none ∧ hexDigit? l ≠ none := by
  unfold byte? at hb
  split at hb
  · next hh hl => exact ⟨by rw [hh]; simp, by rw [hl]; simp⟩
  · cases hb

/-! ## Decoding step by step -/

theorem decode_escape {h l : Char} {b : UInt8} (hb : byte? h l = some b) (rest : Text) :
    decode ('%' :: h :: l :: rest) = b :: decode rest := by
  rw [decode, hb]

/-- A character with which no escape starts stands for itself. -/
theorem decode_cons {c : Char} {rest : Text} (h : startsEscape (c :: rest) = false) :
    decode (c :: rest) = String.utf8EncodeChar c ++ decode rest := by
  by_cases hpercent : c = '%'
  · subst hpercent
    rcases rest with _ | ⟨h', _ | ⟨l, rest⟩⟩
    · rfl
    · rfl
    · rw [startsEscape, Option.isSome_eq_false_iff, Option.isNone_iff_eq_none] at h
      rw [decode, h]
  · rw [decode]
    exact fun _ _ _ heq _ => hpercent heq

/-- A text is taken apart as decoding does it, at its escapes and at the characters between them. -/
@[elab_as_elim]
theorem escapeInduction {P : Text → Prop} (nil : P [])
    (escape : ∀ h l b rest, byte? h l = some b → P rest → P ('%' :: h :: l :: rest))
    (char : ∀ c rest, startsEscape (c :: rest) = false → P rest → P (c :: rest)) (t : Text) : P t := by
  induction t using decode.induct with
  | case1 h l rest b hb ih => exact escape h l b rest hb ih
  | case2 h l rest hb ih =>
      refine char _ _ ?_ ih
      rw [startsEscape, hb]
      rfl
  | case3 c rest hescape ih =>
      refine char c rest ?_ ih
      unfold startsEscape
      split
      · next heq =>
          cases heq
          exact absurd rfl (hescape _ _ _ rfl)
      · rfl
  | case4 => exact nil

theorem decode_escapes (bytes : List UInt8) (rest : Text) :
    decode (bytes.flatMap escapeByte ++ rest) = bytes ++ decode rest := by
  induction bytes with
  | nil => rfl
  | cons b bytes ih =>
      rw [List.flatMap_cons, List.append_assoc, escapeByte]
      simp only [List.cons_append, List.nil_append]
      rw [decode_escape (byte?_hexCharUpper b), ih]

/-! ## Decoding what was encoded -/

theorem encode_cons (c : Char) (rest : Text) : encode (c :: rest) = encodeChar c ++ encode rest :=
  List.flatMap_cons

theorem encode_kept {c : Char} (hc : mustEncode c = false) (rest : Text) :
    encode (c :: rest) = c :: encode rest := by
  rw [encode_cons, encodeChar, hc]
  rfl

theorem exists_encode_escaped {c : Char} (hc : mustEncode c = true) (rest : Text) :
    ∃ more, encode (c :: rest) = '%' :: more := by
  rw [encode_cons, encodeChar, if_pos hc]
  cases hbytes : String.utf8EncodeChar c with
  | nil =>
      have hlen := String.length_utf8EncodeChar c
      rw [hbytes] at hlen
      exact absurd hlen.symm (Nat.ne_of_gt c.utf8Size_pos)
  | cons b bytes => exact ⟨_, rfl⟩

theorem encode_ne_nil (c : Char) (rest : Text) : encode (c :: rest) ≠ [] := by
  cases hc : mustEncode c with
  | true =>
      obtain ⟨more, hmore⟩ := exists_encode_escaped hc rest
      rw [hmore]
      exact List.cons_ne_nil _ _
  | false =>
      rw [encode_kept hc]
      exact List.cons_ne_nil _ _

/-- Encoding what follows a `%` makes no escape of it and breaks none. -/
theorem startsEscape_encode (t : Text) : startsEscape ('%' :: encode t) = startsEscape ('%' :: t) := by
  cases t with
  | nil => rfl
  | cons h t =>
      cases hh : mustEncode h with
      | true =>
          obtain ⟨more, hmore⟩ := exists_encode_escaped hh t
          rw [hmore, startsEscape_of_first (hexDigit?_of_mustEncode hh), startsEscape_of_first (by decide)]
      | false =>
          rw [encode_kept hh]
          cases t with
          | nil => rfl
          | cons l t =>
              cases hl : mustEncode l with
              | true =>
                  obtain ⟨more, hmore⟩ := exists_encode_escaped hl t
                  rw [hmore, startsEscape_of_second (hexDigit?_of_mustEncode hl),
                    startsEscape_of_second (by decide)]
              | false =>
                  rw [encode_kept hl]
                  rfl

/-- An encoded text is decoded to what the text itself is decoded to. -/
theorem decode_encode (t : Text) : decode (encode t) = decode t := by
  induction t using escapeInduction with
  | nil => rfl
  | escape h l b rest hb ih =>
      have hkept : ∀ {c : Char}, hexDigit? c ≠ none → mustEncode c = false := fun hc =>
        Bool.eq_false_iff.2 fun h => hc (hexDigit?_of_mustEncode h)
      obtain ⟨hh, hl⟩ := digits_of_byte? hb
      rw [encode_kept (by decide), encode_kept (hkept hh), encode_kept (hkept hl), decode_escape hb,
        decode_escape hb, ih]
  | char c rest hstarts ih =>
      rw [decode_cons hstarts, ← ih]
      cases hc : mustEncode c with
      | true => rw [encode_cons, encodeChar, if_pos hc, decode_escapes]
      | false =>
          rw [encode_kept hc, decode_cons]
          by_cases hpercent : c = '%'
          · rw [hpercent, startsEscape_encode, ← hpercent, hstarts]
          · exact startsEscape_of_ne hpercent _

/-! ## Decoding in parts -/

/-- A character that is no digit ends every escape before it, so none starts that did not start without it. -/
theorem startsEscape_append {c d : Char} {t : Text} (hc : hexDigit? c = none)
    (ht : startsEscape (d :: t) = false) (rest : Text) : startsEscape (d :: (t ++ c :: rest)) = false := by
  by_cases hd : d = '%'
  · subst hd
    rcases t with _ | ⟨h, _ | ⟨l, t⟩⟩
    · exact startsEscape_of_first hc rest
    · exact startsEscape_of_second hc rest
    · exact ht
  · exact startsEscape_of_ne hd _

/-- What stands before a character that is no digit is decoded by itself. -/
theorem decode_append {c : Char} (hc : hexDigit? c = none) (t rest : Text) :
    decode (t ++ c :: rest) = decode t ++ decode (c :: rest) := by
  induction t using escapeInduction with
  | nil => rfl
  | escape h l b t hb ih =>
      simp only [List.cons_append]
      rw [decode_escape hb, decode_escape hb, ih, List.cons_append]
  | char d t hstarts ih =>
      rw [List.cons_append, decode_cons (startsEscape_append hc hstarts rest), decode_cons hstarts, ih,
        List.append_assoc]

/-- A character that no escape holds is decoded to itself, whatever is broken off before it. -/
theorem decodeText_append {c : Char} (hc : hexDigit? c = none) (hpercent : c ≠ '%') (t rest : Text) :
    decodeText (t ++ c :: rest) = decodeText t ++ c :: decodeText rest := by
  rw [decodeText, decode_append hc, decode_cons (startsEscape_of_ne hpercent rest), Text.ofBytes,
    Text.readBytes_append_char Text.waits_none]
  rfl

/-! ## Encoding twice -/

theorem mustEncode_hexCharUpper : ∀ n : Fin 16, mustEncode (hexCharUpper n) = false := by decide

/-- No character of an escape has to be encoded. -/
theorem mustEncode_of_mem_escapeByte {b : UInt8} {c : Char} (h : c ∈ escapeByte b) : mustEncode c = false := by
  have hlt : b.toNat < 256 := b.toNat_lt
  simp only [escapeByte, List.mem_cons, List.not_mem_nil, or_false] at h
  rcases h with rfl | rfl | rfl
  · decide
  · exact mustEncode_hexCharUpper ⟨b.toNat / 16, by omega⟩
  · exact mustEncode_hexCharUpper ⟨b.toNat % 16, by omega⟩

/-- Nor has any character of an encoded text. -/
theorem mustEncode_of_mem_encode {t : Text} {c : Char} (h : c ∈ encode t) : mustEncode c = false := by
  obtain ⟨d, -, hc⟩ := List.mem_flatMap.1 h
  unfold encodeChar at hc
  split at hc
  · obtain ⟨b, -, hb⟩ := List.mem_flatMap.1 hc
    exact mustEncode_of_mem_escapeByte hb
  · next hkept =>
      obtain rfl := List.mem_singleton.1 hc
      exact Bool.eq_false_iff.2 hkept

theorem encode_eq_self {t : Text} (h : ∀ c ∈ t, mustEncode c = false) : encode t = t := by
  induction t with
  | nil => rfl
  | cons c t ih =>
      rw [List.forall_mem_cons] at h
      rw [encode_kept h.1, ih h.2]

/-- Encoding twice is encoding once. -/
theorem encode_encode (t : Text) : encode (encode t) = encode t :=
  encode_eq_self fun _ => mustEncode_of_mem_encode

/-! ## Escapes in a text -/

theorem hasEscape_of_not_mem {t : Text} (h : '%' ∉ t) : hasEscape t = false := by
  induction t with
  | nil => rfl
  | cons c t ih =>
      rw [List.mem_cons, not_or] at h
      rw [hasEscape, startsEscape_of_ne (Ne.symm h.1), ih h.2]
      rfl

theorem decode_eq_toBytes {t : Text} (h : hasEscape t = false) : decode t = Text.toBytes t := by
  induction t with
  | nil => rfl
  | cons c t ih =>
      rw [hasEscape, Bool.or_eq_false_iff] at h
      rw [decode_cons h.1, ih h.2, Text.toBytes, Text.toBytes, List.flatMap_cons]

/-- A text without escapes is decoded to itself. -/
theorem decodeText_eq_self {t : Text} (h : hasEscape t = false) : decodeText t = t := by
  rw [decodeText, decode_eq_toBytes h, Text.ofBytes_toBytes]

theorem decodeText_cons {c : Char} {rest : Text} (h : startsEscape (c :: rest) = false) :
    decodeText (c :: rest) = c :: decodeText rest := by
  rw [decodeText, decode_cons h, Text.ofBytes, Text.readBytes_none_char, decodeText, Text.ofBytes]

theorem length_readBytes_decode (t : Text) {s : Option Text.Partial} (hs : Text.Waits s) :
    (Text.readBytes s (decode t)).length + (if hasEscape t then 2 else 0) ≤
      (Text.brokenOff s).length + t.length := by
  induction t using escapeInduction generalizing s with
  | nil => cases s <;> simp [decode, hasEscape, Text.readBytes, Text.brokenOff]
  | escape h l b rest hb ih =>
      have hrest := ih (Text.waits_nextByte b.toNat s)
      have hbyte := Text.length_nextByte b.toNat s
      have hescape : hasEscape ('%' :: h :: l :: rest) = true := by
        rw [hasEscape, startsEscape, hb]
        rfl
      rw [decode_escape hb, Text.readBytes_cons, hescape, if_pos rfl]
      simp only [List.length_append, List.length_cons]
      omega
  | char c rest hstarts ih =>
      have hrest := ih Text.waits_none
      rw [decode_cons hstarts, Text.readBytes_char hs, hasEscape, hstarts, Bool.false_or]
      simp only [List.length_append, List.length_cons, Text.brokenOff, List.length_nil] at hrest ⊢
      omega

/-- An escape takes two characters more than what it is decoded to. -/
theorem length_decodeText (t : Text) :
    (decodeText t).length + (if hasEscape t then 2 else 0) ≤ t.length := by
  have h := length_readBytes_decode t Text.waits_none
  rwa [Text.brokenOff, List.length_nil, Nat.zero_add] at h

end Signpost.Percent
