import Signpost.Proofs.Target.Character
import Signpost.Proofs.Template.Slash

/-!
# The path of a target

A target that starts with a slash is a path up to its first `?` or `#` (`Uri.beforeQuery`), and the decoded
path of its URI is what that part is decoded to (`Uri.exists_decodedPath_of_slash`).  Of any other target the
path is a lone `*`, or empty, or what follows an authority.

*Verbatim targets.*  So the decoded path is the target itself if the target starts with a slash, or is a
lone `*`, and holds no `?`, no `#` and no escape (`Uri.decodedPath_of_verbatim`).  Of any other target it
is another text, even after trimming a slash from both (`Uri.trimSlash_decodedPath_ne`).
-/

namespace Signpost

open Percent

/-! ## Characters that end a part -/

namespace Percent

/-- A character that encoding keeps and that no escape holds. -/
def Delimits (c : Char) : Prop := mustEncode c = false ∧ ∀ b, c ∉ escapeByte b

theorem delimits_of_not_digit {c : Char} (hkept : mustEncode c = false) (hpercent : c ≠ '%')
    (hdigit : hexDigit? c = none) : Delimits c := by
  refine ⟨hkept, fun b hb => ?_⟩
  have hnot : ∀ n : Nat, n < 16 → c ≠ hexCharUpper n := by
    rintro n hn rfl
    rw [hexDigit?_hexCharUpper ⟨n, hn⟩] at hdigit
    cases hdigit
  have hlt : b.toNat < 256 := b.toNat_lt
  simp only [escapeByte, List.mem_cons, List.not_mem_nil, or_false] at hb
  rcases hb with hb | hb | hb
  · exact hpercent hb
  · exact hnot _ (by omega) hb
  · exact hnot _ (by omega) hb

/-- A delimiter stands in an encoded character only if it is that character. -/
theorem Delimits.not_mem_encodeChar {c d : Char} (hc : Delimits c) (hd : d ≠ c) : c ∉ encodeChar d := by
  unfold encodeChar
  split
  · intro hmem
    obtain ⟨b, -, hb⟩ := List.mem_flatMap.1 hmem
    exact hc.2 b hb
  · simpa using hd.symm

/-- What stands before some delimiters is encoded by itself. -/
theorem takeWhile_encode {p : Char → Bool} (hp : ∀ c, p c = false → Delimits c) (t : Text) :
    (encode t).takeWhile p = encode (t.takeWhile p) := by
  induction t with
  | nil => rfl
  | cons c t ih =>
      cases hc : p c with
      | false =>
          rw [List.takeWhile_cons_of_neg (by simp [hc]), encode_kept (hp c hc).1,
            List.takeWhile_cons_of_neg (by simp [hc])]
          rfl
      | true =>
          have hall : ∀ d ∈ encodeChar c, p d = true := by
            intro d hd
            by_contra hnot
            rw [Bool.not_eq_true] at hnot
            refine (hp d hnot).not_mem_encodeChar ?_ hd
            rintro rfl
            rw [hc] at hnot
            cases hnot
          rw [List.takeWhile_cons_of_pos hc, encode_cons, encode_cons, List.takeWhile_append_of_pos hall, ih]

end Percent

namespace Uri

/-- Whether a character ends the path of a target. -/
def endsPath (c : Char) : Bool := c == '?' || c == '#'

theorem endsPath_iff {c : Char} : endsPath c = true ↔ c = '?' ∨ c = '#' := by simp [endsPath]

/-- What stands before a query or a fragment. -/
def beforeQuery (t : Text) : Text := t.takeWhile (!endsPath ·)

theorem beforeQuery_encode (t : Text) : beforeQuery (encode t) = encode (beforeQuery t) := by
  refine takeWhile_encode (fun c hc => ?_) t
  rw [Bool.not_eq_false', endsPath_iff] at hc
  rcases hc with rfl | rfl
  · exact delimits_of_not_digit (by decide) (by decide) (by decide)
  · exact delimits_of_not_digit (by decide) (by decide) (by decide)

theorem cut?_takeWhile (c : Char) (t : Text) :
    (match Text.cut? c t with
      | some (a, _) => a
      | none => t) = t.takeWhile (· != c) := by
  induction t with
  | nil => rfl
  | cons d t ih =>
      rw [Text.cut?]
      by_cases hd : d = c
      · simp [hd]
      · rw [if_neg (by simpa using hd), List.takeWhile_cons_of_pos (by simpa using hd), ← ih]
        cases Text.cut? c t <;> rfl

/-- The path that a query is cut from. -/
theorem splitQuery_fst (t : Text) : (splitQuery t).1 = beforeQuery t := by
  have hcut := cut?_takeWhile '?' (t.takeWhile (· != '#'))
  have hboth : (t.takeWhile (· != '#')).takeWhile (· != '?') = beforeQuery t := by
    rw [List.takeWhile_takeWhile, beforeQuery]
    congr 1
    funext c
    unfold endsPath bne
    cases c == '?' <;> cases c == '#' <;> rfl
  rw [← hboth, ← hcut, splitQuery]
  cases Text.cut? '?' (t.takeWhile (· != '#')) <;> rfl

/-- A text without query and fragment, or with the character that starts one after its path. -/
theorem beforeQuery_or (t : Text) : (beforeQuery t = t ∧ '?' ∉ t ∧ '#' ∉ t) ∨
    ∃ c rest, t = beforeQuery t ++ c :: rest ∧ endsPath c = true := by
  have happend : t = beforeQuery t ++ t.dropWhile (!endsPath ·) := List.takeWhile_append_dropWhile.symm
  cases hrest : t.dropWhile (!endsPath ·) with
  | nil =>
      have hall : ∀ c ∈ t, (!endsPath c) = true := List.dropWhile_eq_nil_iff.1 hrest
      refine .inl ⟨List.takeWhile_eq_self_iff.2 hall, fun hmem => ?_, fun hmem => ?_⟩
      · exact absurd (hall _ hmem) (by decide)
      · exact absurd (hall _ hmem) (by decide)
  | cons c rest =>
      have hhead := List.head?_dropWhile_not (!endsPath ·) t
      rw [hrest] at happend hhead
      exact .inr ⟨c, rest, happend, by simpa using hhead⟩

theorem beforeQuery_eq_self {t : Text} (hquery : '?' ∉ t) (hfragment : '#' ∉ t) : beforeQuery t = t := by
  rcases beforeQuery_or t with ⟨hwhole, -⟩ | ⟨c, more, heq, hc⟩
  · exact hwhole
  · have hmem : c ∈ t := by
      rw [heq]
      simp
    rcases endsPath_iff.1 hc with rfl | rfl
    · exact absurd hmem hquery
    · exact absurd hmem hfragment

/-! ## The path of a URI -/

/-- What follows an authority gives a path that starts with a slash. -/
theorem path_after_authority (rest : Text) :
    let path := (splitQuery (rest.dropWhile (!endsAuthority ·))).1
    ∃ more, (if path.isEmpty then ['/'] else path) = '/' :: more := by
  dsimp only
  rw [splitQuery_fst]
  cases hafter : rest.dropWhile (!endsAuthority ·) with
  | nil => exact ⟨[], rfl⟩
  | cons c after =>
      by_cases hc : c = '/'
      · subst hc
        exact ⟨beforeQuery after, rfl⟩
      · have hhead := List.head?_dropWhile_not (!endsAuthority ·) rest
        rw [hafter] at hhead
        have hends : endsPath c = true := by
          simpa [endsAuthority, endsPath, hc, Decidable.or_iff_not_imp_left] using hhead
        have hnone : beforeQuery (c :: after) = [] := List.takeWhile_cons_of_neg (by simp [hends])
        rw [hnone]
        exact ⟨[], rfl⟩

/-- The path of a URI that does not start with a slash is empty or starts with one. -/
theorem path_of_ofFull {t : Text} {uri : Uri} (h : ofFull t = .ok uri) :
    uri.path = [] ∨ ∃ rest, uri.path = '/' :: rest := by
  unfold ofFull at h
  cases hsplit : splitScheme t with
  | error e =>
      rw [hsplit] at h
      cases h
  | ok parts =>
      obtain ⟨scheme, rest⟩ := parts
      rw [hsplit] at h
      dsimp only [bind, Except.bind] at h
      split at h
      · cases h
      · split at h
        · cases h
        · cases scheme with
          | none =>
              dsimp only at h
              split at h
              · cases h
                exact .inl rfl
              · cases h
          | some scheme =>
              dsimp only at h
              split at h
              · cases h
              · split at h
                · cases h
                · next parts hread =>
                    obtain ⟨rfl, -⟩ := readPath_eq_ok_iff.1 hread
                    cases h
                    exact .inr (path_after_authority rest)

theorem ofText_other {c : Char} {t : Text} {uri : Uri} (hslash : c ≠ '/') (hstar : c = '*' → t ≠ [])
    (h : ofText (c :: t) = .ok uri) : ofFull (c :: t) = .ok uri := by
  unfold ofText at h
  split at h
  · cases h
  · split at h
    · next heq => cases heq
    · next heq =>
        cases heq
        exact absurd rfl hslash
    · next heq =>
        cases heq
        exact absurd rfl (hstar rfl)
    · exact h

theorem ofTarget_eq_ok {t : Text} {uri : Uri} : ofTarget t = .ok uri ↔ ofText (encode t) = .ok uri := by
  unfold ofTarget
  cases ofText (encode t) with
  | error e => constructor <;> (intro h; cases h)
  | ok uri' => constructor <;> (intro h; cases h; rfl)

/-- The URI of a target that starts with a slash has the part before a query for its path. -/
theorem path_of_ofTarget_slash {t : Text} {uri : Uri} (h : ofTarget ('/' :: t) = .ok uri) :
    uri.path = encode (beforeQuery ('/' :: t)) := by
  rw [ofTarget_eq_ok, encode_kept (by decide), ofText_slash_eq_ok_iff] at h
  obtain ⟨-, parts, hread, rfl⟩ := h
  obtain ⟨rfl, -⟩ := readPath_eq_ok_iff.1 hread
  dsimp only
  rw [splitQuery_fst, ← encode_kept (by decide), beforeQuery_encode]

/-- Its path is decoded to what the part before a query is decoded to. -/
theorem decodedPath_of_ofTarget_slash {t : Text} {uri : Uri} (h : ofTarget ('/' :: t) = .ok uri) :
    uri.decodedPath = decodeText (beforeQuery ('/' :: t)) := by
  rw [decodedPath, path_of_ofTarget_slash h, decodeText, decode_encode, ← decodeText]

/-- A target that starts with a slash is its own decoded path if it holds no escape and nothing is cut off. -/
theorem decodedPath_of_plain {t : Text} {uri : Uri} (h : ofTarget ('/' :: t) = .ok uri) (hpercent : '%' ∉ t)
    (hquery : '?' ∉ t) (hfragment : '#' ∉ t) : uri.decodedPath = '/' :: t := by
  rw [decodedPath_of_ofTarget_slash h, beforeQuery_eq_self (by simpa using hquery) (by simpa using hfragment)]
  exact decodeText_eq_self (hasEscape_of_not_mem (by simpa using hpercent))

/-- A target that starts with a slash and is not too long is read, and its path is decoded to what the part
before a query is decoded to. -/
theorem exists_decodedPath_of_slash {t : Text} (hlen : Text.bytes (encode ('/' :: t)) ≤ maxLength) :
    ∃ uri, ofTarget ('/' :: t) = .ok uri ∧ uri.decodedPath = decodeText (beforeQuery ('/' :: t)) := by
  -- Nothing that encoding leaves is refused for its characters, so the length alone decides.
  have hkept : ∀ c ∈ encode ('/' :: t), mustEncode c = false := fun c hc => mustEncode_of_mem_encode hc
  rw [encode_kept (by decide)] at hlen hkept
  have hread := ofText_slash_of_kept hkept hlen
  rw [← encode_kept (by decide)] at hread
  have hok := ofTarget_eq_ok.2 hread
  exact ⟨_, hok, decodedPath_of_ofTarget_slash hok⟩

/-- The path of any other target but a lone `*` is empty or starts with a slash. -/
theorem path_of_ofTarget_other {c : Char} {t : Text} {uri : Uri} (hslash : c ≠ '/')
    (hstar : c :: t ≠ ['*']) (h : ofTarget (c :: t) = .ok uri) :
    uri.path = [] ∨ ∃ rest, uri.path = '/' :: rest := by
  rw [ofTarget_eq_ok] at h
  cases hc : mustEncode c with
  | true =>
      obtain ⟨more, hmore⟩ := exists_encode_escaped hc t
      rw [hmore] at h
      exact path_of_ofFull (ofText_other (by decide) (fun heq => absurd heq (by decide)) h)
  | false =>
      rw [encode_kept hc] at h
      refine path_of_ofFull (ofText_other hslash ?_ h)
      rintro rfl hnil
      cases t with
      | nil => exact hstar rfl
      | cons d t => exact encode_ne_nil d t hnil

/-! ## Verbatim targets -/

/-- Whether a target starts with a slash, or is a lone `*`, and nothing is cut off it or read in it. -/
def isVerbatim (t : Text) : Bool :=
  (t.head? == some '/' || t == ['*']) && !t.contains '?' && !t.contains '#' && !hasEscape t

/-- The decoded path of a verbatim target is the target. -/
theorem decodedPath_of_verbatim {t : Text} (h : isVerbatim t = true) (hlen : Text.bytes (encode t) ≤ maxLength) :
    ∃ uri, ofTarget t = .ok uri ∧ uri.decodedPath = t := by
  simp only [isVerbatim, Bool.and_eq_true, Bool.or_eq_true, beq_iff_eq, Bool.not_eq_true',
    List.contains_eq_mem, decide_eq_false_iff_not] at h
  obtain ⟨⟨⟨hstart, hquery⟩, hfragment⟩, hescape⟩ := h
  rcases hstart with hslash | rfl
  · obtain ⟨rest, rfl⟩ := List.head?_eq_some_iff.1 hslash
    obtain ⟨uri, hok, hpath⟩ := exists_decodedPath_of_slash hlen
    rw [beforeQuery_eq_self hquery hfragment, decodeText_eq_self hescape] at hpath
    exact ⟨uri, hok, hpath⟩
  · exact ⟨_, rfl, rfl⟩

theorem trimSlash_decodeText_ne {t : Text} (h : isVerbatim ('/' :: t) = false) (enabled : Bool) :
    Template.trimSlash enabled (decodeText (beforeQuery ('/' :: t))) ≠
      Template.trimSlash enabled ('/' :: t) := by
  intro heq
  have hlengths := congrArg List.length heq
  have hdecoded := length_decodeText (beforeQuery ('/' :: t))
  have hpath := Template.length_trimSlash enabled (decodeText (beforeQuery ('/' :: t)))
  have htarget := Template.length_trimSlash enabled ('/' :: t)
  rcases beforeQuery_or ('/' :: t) with ⟨hwhole, hquery, hfragment⟩ | ⟨c, rest, hcut, hc⟩
  · -- Nothing is cut off, so there is an escape, which takes more than a slash.
    have hescape : hasEscape ('/' :: t) = true := by
      by_contra hnone
      rw [Bool.not_eq_true] at hnone
      simp [isVerbatim, hquery, hfragment, hnone] at h
    rw [hwhole, hescape, if_pos rfl] at hdecoded
    rw [hwhole] at hlengths hpath
    omega
  · -- What is cut off is no slash, so trimming would have to take more than one character.
    have hcount : ('/' :: t).length = (beforeQuery ('/' :: t)).length + (rest.length + 1) := by
      conv_lhs => rw [hcut]
      rw [List.length_append, List.length_cons]
    have htrimmed : Template.trimSlash enabled ('/' :: t) ≠ '/' :: t := by
      intro hsame
      rw [hsame] at hlengths
      omega
    obtain ⟨-, b, -, hslash⟩ := Template.trimSlash_ne_iff.1 htrimmed
    have hrest : rest = [] := List.eq_nil_of_length_eq_zero (by omega)
    rw [hcut, hrest] at hslash
    obtain rfl : c = '/' := by simpa using (List.append_inj_right' hslash rfl)
    cases hc

/-- The decoded path of a target that is not verbatim is another text, even if a slash at the end does not
count. -/
theorem trimSlash_decodedPath_ne {t : Text} {uri : Uri} (hok : ofTarget t = .ok uri)
    (h : isVerbatim t = false) (enabled : Bool) :
    Template.trimSlash enabled uri.decodedPath ≠ Template.trimSlash enabled t := by
  cases t with
  | nil => cases hok
  | cons c t =>
      by_cases hslash : c = '/'
      · subst hslash
        rw [decodedPath, path_of_ofTarget_slash hok, decodeText, decode_encode, ← decodeText]
        exact trimSlash_decodeText_ne h enabled
      · have hstar : c :: t ≠ ['*'] := by
          rintro heq
          rw [heq] at h
          cases h
        have hhead : uri.decodedPath.head? ≠ some c := by
          rcases path_of_ofTarget_other hslash hstar hok with hpath | ⟨rest, hpath⟩
          · rw [decodedPath, hpath]
            simp [decodeText, decode, Text.ofBytes, Text.readBytes]
          · rw [decodedPath, hpath, decodeText_cons (startsEscape_of_ne (by decide) rest)]
            simpa using Ne.symm hslash
        intro heq
        have hheads := congrArg List.head? heq
        rw [Template.head?_trimSlash, Template.head?_trimSlash] at hheads
        exact hhead hheads

end Uri

end Signpost
