import Signpost.Proofs.Template.Segments

/-!
# How placeholders are written

A placeholder is any text between `<<` and `>>` (`Placeholder.inner?_eq_some_iff`).  The two delimiters have no
character in common, so they cannot overlap, and the test that looks at both ends of a segment accepts the same
segments (`Placeholder.isPlaceholder_iff`).

*Types.*  `Kind.Denotes` says which words denote a kind.  Six are fixed, and any text between `raw(` and `)` is the
expression it denotes; the word before the parenthesis may be in either case, letter by letter (`Kind.rawWords`).
No word denotes two kinds, since the one that it denotes is the one found (`Kind.known?_eq_some_iff`).  A word that
denotes none is no fault: a type then means letters, and a name anything but slashes (`Kind.getD_known?_eq_iff`).

*Bytes.*  The expression of `raw(…)` can be found by cutting the word at its fourth byte (`Kind.rawExprAt?`).  If a
character stretches over that place, the word is not of this form, and otherwise there is a place to cut.  So the
cut is never made inside of a character (`Kind.rawExprAt?_eq`).
-/

namespace Signpost

namespace Text

/-! ## Cutting at a character and at a byte -/

theorem cut?_append {c : Char} {a : Text} (h : c ∉ a) (b : Text) : cut? c (a ++ c :: b) = some (a, b) := by
  induction a with
  | nil => simp [cut?]
  | cons d a ih =>
      rw [List.mem_cons, not_or] at h
      have hd : (d == c) = false := beq_eq_false_iff_ne.2 (Ne.symm h.1)
      rw [List.cons_append, cut?, hd, ih h.2]
      rfl

theorem cut?_eq_none {c : Char} {t : Text} (h : c ∉ t) : cut? c t = none := by
  cases hcut : cut? c t with
  | none => rfl
  | some parts => exact absurd (by rw [cut?_eq_some hcut]; simp) h

/-- The texts before and after a byte, if no character stretches over the place and the text is as long. -/
def cutAt? : Nat → Text → Option (Text × Text)
  | 0, t => some ([], t)
  | _ + 1, [] => none
  | n + 1, c :: t =>
    if c.utf8Size ≤ n + 1 then
      (cutAt? (n + 1 - c.utf8Size) t).map fun (a, b) => (c :: a, b)
    else none

theorem cutAt?_bytes (a b : Text) : cutAt? (bytes a) (a ++ b) = some (a, b) := by
  induction a with
  | nil => rw [bytes, List.nil_append, cutAt?]
  | cons c a ih =>
      have hc : 0 < c.utf8Size := c.utf8Size_pos
      obtain ⟨n, hn⟩ : ∃ n, c.utf8Size + bytes a = n + 1 := ⟨c.utf8Size + bytes a - 1, by omega⟩
      have hrest : n + 1 - c.utf8Size = bytes a := by omega
      rw [bytes, hn, List.cons_append, cutAt?, if_pos (by omega), hrest, ih]
      rfl

theorem eq_append_of_cutAt? {n : Nat} {t a b : Text} (h : cutAt? n t = some (a, b)) :
    t = a ++ b ∧ bytes a = n := by
  induction t generalizing n a with
  | nil =>
      cases n with
      | zero => cases h; exact ⟨rfl, rfl⟩
      | succ n => cases h
  | cons c t ih =>
      cases n with
      | zero => cases h; exact ⟨rfl, rfl⟩
      | succ n =>
          rw [cutAt?] at h
          split at h
          · next hfits =>
              obtain ⟨⟨a', b'⟩, hcut, heq⟩ := Option.map_eq_some_iff.1 h
              cases heq
              obtain ⟨rfl, hbytes⟩ := ih hcut
              exact ⟨rfl, by rw [bytes]; omega⟩
          · cases h

/-- A text can be cut at a byte exactly if one of its starts has so many bytes. -/
theorem cutAt?_eq_some_iff {n : Nat} {t a b : Text} : cutAt? n t = some (a, b) ↔ t = a ++ b ∧ bytes a = n := by
  refine ⟨eq_append_of_cutAt?, ?_⟩
  rintro ⟨rfl, rfl⟩
  exact cutAt?_bytes a b

end Text

namespace Kind

/-! ## The words of types -/

/-- The spellings of `raw(`. -/
def rawWords : List Text :=
  ["raw(", "raW(", "rAw(", "rAW(", "Raw(", "RaW(", "RAw(", "RAW("].map String.toList

/-- The word `token` denotes a kind. -/
inductive Denotes : Text → Kind → Prop where
  /-- Digits. -/
  | int : Denotes "int".toList int
  /-- Digits, letters, underscores and hyphens. -/
  | string : Denotes "string".toList slug
  /-- The same by its other name. -/
  | slug : Denotes "slug".toList slug
  /-- Hexadecimal digits in groups. -/
  | uuid : Denotes "uuid".toList uuid
  /-- Anything but line feeds. -/
  | any : Denotes "any".toList any
  /-- Hexadecimal digits. -/
  | hex : Denotes "hex".toList hex
  /-- An expression, whatever its text is. -/
  | raw {word expr : Text} : word ∈ rawWords → Denotes (word ++ expr ++ [')']) (raw expr)

variable {token word expr : Text} {k : Kind}

/-- A character with a given lower case is that or its capital letter. -/
theorem eq_or_of_toLower {c d : Char} (h : c.toLower = d) :
    c = d ∨ 65 ≤ c.toNat ∧ c.toNat + 32 = d.toNat := by
  by_cases hupper : c.val ≥ 'A'.val ∧ c.val ≤ 'Z'.val
  · have hlower : c.toLower = ⟨c.val + ('a'.val - 'A'.val), _⟩ := dif_pos hupper
    have hsum : d.toNat = (c.toNat + 32) % 4294967296 := by
      rw [← h, hlower]
      exact UInt32.toNat_add _ _
    have hlow : 65 ≤ c.toNat := UInt32.le_iff_toNat_le.1 hupper.1
    have hhigh : c.toNat ≤ 90 := UInt32.le_iff_toNat_le.1 hupper.2
    omega
  · have hlower : c.toLower = c := dif_neg hupper
    exact .inl (hlower.symm.trans h)

/-- The two cases of a letter. -/
theorem eq_or_eq_of_toLower {c d e : Char} (h : c.toLower = d) (he : e.toNat + 32 = d.toNat) :
    c = d ∨ c = e := by
  rcases eq_or_of_toLower h with h | ⟨-, h⟩
  · exact .inl h
  · exact .inr (Char.toNat_inj.1 (by omega))

theorem asciiLower_eq_iff : Text.asciiLower word = "raw(".toList ↔ word ∈ rawWords := by
  constructor
  · intro h
    obtain ⟨r, _, rfl, hr, h⟩ := List.map_eq_cons_iff.1 h
    obtain ⟨a, _, rfl, ha, h⟩ := List.map_eq_cons_iff.1 h
    obtain ⟨w, _, rfl, hw, h⟩ := List.map_eq_cons_iff.1 h
    obtain ⟨p, rfl, hp⟩ := List.map_eq_singleton_iff.1 h
    rcases eq_or_of_toLower (d := '(') hp with rfl | ⟨hlow, hsum⟩
    · rcases eq_or_eq_of_toLower (e := 'R') hr rfl with rfl | rfl <;>
        rcases eq_or_eq_of_toLower (e := 'A') ha rfl with rfl | rfl <;>
          rcases eq_or_eq_of_toLower (e := 'W') hw rfl with rfl | rfl <;> decide
    · have hparen : '('.toNat = 40 := rfl
      omega
  · intro h
    revert word
    decide

/-! ## The kind of a word -/

theorem length_of_mem_rawWords : ∀ word ∈ rawWords, word.length = 4 ∧ Text.bytes word = 4 := by
  decide

/-- After `raw(` the expression is all but the last character, which is the closing parenthesis. -/
theorem rawExpr?_append (hword : word ∈ rawWords) (rest : Text) :
    rawExpr? (word ++ rest) = Text.before? [')'] rest := by
  have hlower := asciiLower_eq_iff.2 hword
  match word, (length_of_mem_rawWords word hword).1 with
  | [r, a, w, p], _ => exact if_pos hlower

theorem rawExpr?_eq_some_iff :
    rawExpr? token = some expr ↔ ∃ word ∈ rawWords, token = word ++ expr ++ [')'] := by
  constructor
  · intro h
    unfold rawExpr? at h
    split at h
    · next r a w p rest =>
        split at h
        · next hlower =>
            obtain rfl := Text.before?_eq_some.1 h
            exact ⟨[r, a, w, p], asciiLower_eq_iff.1 hlower, rfl⟩
        · cases h
    · cases h
  · rintro ⟨word, hword, rfl⟩
    rw [List.append_assoc, rawExpr?_append hword]
    exact Text.before?_eq_some.2 rfl

/-- The words `raw(` start with a letter that starts no other word of a type. -/
theorem ne_append_of_mem_rawWords (hword : word ∈ rawWords) (rest : Text) :
    ∀ other ∈ ["int", "string", "slug", "uuid", "any", "hex"], word ++ rest ≠ other.toList := by
  revert word
  simp [rawWords]

theorem known?_eq_some_iff : known? token = some k ↔ Denotes token k := by
  constructor
  · intro h
    unfold known? at h
    split_ifs at h with hint hstring hslug huuid hany hhex
    · cases h; rw [hint]; exact .int
    · cases h; rw [hstring]; exact .string
    · cases h; rw [hslug]; exact .slug
    · cases h; rw [huuid]; exact .uuid
    · cases h; rw [hany]; exact .any
    · cases h; rw [hhex]; exact .hex
    · obtain ⟨expr, hexpr, rfl⟩ := Option.map_eq_some_iff.1 h
      obtain ⟨word, hword, rfl⟩ := rawExpr?_eq_some_iff.1 hexpr
      exact .raw hword
  · intro h
    cases h with
    | @raw word expr hword =>
        have hne := ne_append_of_mem_rawWords hword (expr ++ [')'])
        simp only [List.forall_mem_cons] at hne
        obtain ⟨hint, hstring, hslug, huuid, hany, hhex, -⟩ := hne
        rw [List.append_assoc, known?, if_neg hint, if_neg hstring, if_neg hslug, if_neg huuid, if_neg hany,
          if_neg hhex, rawExpr?_append hword, Text.before?_eq_some.2 rfl, Option.map_some]
    | _ => rfl

/-- A word without a kind of its own has the one that is meant otherwise. -/
theorem getD_known?_eq_iff {otherwise : Kind} : (known? token).getD otherwise = k ↔
    Denotes token k ∨ (∀ j, ¬Denotes token j) ∧ k = otherwise := by
  cases hknown : known? token with
  | none =>
      have hnot : ∀ j, ¬Denotes token j := fun j hj => by
        rw [known?_eq_some_iff.2 hj] at hknown
        cases hknown
      simp [hnot, eq_comm]
  | some j =>
      have hj := known?_eq_some_iff.1 hknown
      rw [Option.getD_some]
      constructor
      · rintro rfl
        exact .inl hj
      · rintro (hk | ⟨hnot, -⟩)
        · exact Option.some.inj (hknown.symm.trans (known?_eq_some_iff.2 hk))
        · exact absurd hj (hnot j)

theorem ofToken_eq_raw_iff : ofToken token = raw expr ↔ ∃ word ∈ rawWords, token = word ++ expr ++ [')'] := by
  rw [ofToken, getD_known?_eq_iff]
  constructor
  · rintro (h | ⟨-, h⟩)
    · cases h with
      | raw hword => exact ⟨_, hword, rfl⟩
    · cases h
  · rintro ⟨word, hword, rfl⟩
    exact .inl (.raw hword)

/-! ## Cutting a word at its fourth byte -/

/-- The expression in `raw(EXPR)`, with the word cut at its fourth byte.  If no character ends there, nothing is
found.  There is no answer at all if what follows `raw(` would start inside of a character. -/
def rawExprAt? (token : Text) : Option (Option Text) :=
  match Text.cutAt? 4 token with
  | none => some none
  | some (keyword, _) =>
    if Text.asciiLower keyword = "raw(".toList then
      (Text.cutAt? 4 token).map fun (_, rest) => Text.before? [')'] rest
    else some none

theorem cutAt?_of_rawExpr? (h : rawExpr? token = some expr) :
    ∃ word ∈ rawWords, Text.cutAt? 4 token = some (word, expr ++ [')']) := by
  obtain ⟨word, hword, rfl⟩ := rawExpr?_eq_some_iff.1 h
  have hbytes := (length_of_mem_rawWords word hword).2
  exact ⟨word, hword, Text.cutAt?_eq_some_iff.2 ⟨List.append_assoc _ _ _, hbytes⟩⟩

/-- Cutting at bytes always has an answer, which is the same as without bytes. -/
theorem rawExprAt?_eq (token : Text) : rawExprAt? token = some (rawExpr? token) := by
  unfold rawExprAt?
  cases hcut : Text.cutAt? 4 token with
  | none =>
      cases hexpr : rawExpr? token with
      | none => rfl
      | some expr =>
          obtain ⟨word, -, hword⟩ := cutAt?_of_rawExpr? hexpr
          cases hcut.symm.trans hword
  | some parts =>
      obtain ⟨keyword, rest⟩ := parts
      dsimp only
      split
      · next hlower =>
          obtain ⟨rfl, -⟩ := Text.cutAt?_eq_some_iff.1 hcut
          rw [rawExpr?_append (asciiLower_eq_iff.1 hlower)]
          rfl
      · next hlower =>
          cases hexpr : rawExpr? token with
          | none => rfl
          | some expr =>
              obtain ⟨word, hword, hcut'⟩ := cutAt?_of_rawExpr? hexpr
              cases hcut.symm.trans hcut'
              exact absurd (asciiLower_eq_iff.2 hword) hlower

end Kind

namespace Placeholder

variable {segment inner name token : Text}

/-! ## Between the delimiters -/

theorem inner?_eq_some_iff : inner? segment = some inner ↔ segment = ['<', '<'] ++ inner ++ ['>', '>'] := by
  rw [inner?, Option.bind_eq_some_iff]
  constructor
  · rintro ⟨rest, hrest, hinner⟩
    rw [Text.after?_eq_some.1 hrest, Text.before?_eq_some.1 hinner, List.append_assoc]
  · rintro rfl
    exact ⟨inner ++ ['>', '>'], Text.after?_eq_some.2 (List.append_assoc _ _ _), Text.before?_eq_some.2 rfl⟩

theorem ofSegment?_wrapped (inner : Text) :
    ofSegment? (['<', '<'] ++ inner ++ ['>', '>']) = some (ofInner inner) := by
  rw [ofSegment?, inner?_eq_some_iff.2 rfl, Option.map_some]

theorem isSome_ofSegment?_iff :
    (ofSegment? segment).isSome ↔ ∃ inner, segment = ['<', '<'] ++ inner ++ ['>', '>'] := by
  rw [ofSegment?, Option.isSome_map, Option.isSome_iff_exists]
  simp only [inner?_eq_some_iff]

/-- The delimiters cannot overlap, since they have no character in common. -/
theorem isPlaceholder_iff :
    isPlaceholder segment = true ↔ ∃ inner, segment = ['<', '<'] ++ inner ++ ['>', '>'] := by
  simp only [isPlaceholder, Bool.and_eq_true, decide_eq_true_eq, List.isPrefixOf_iff_prefix,
    List.isSuffixOf_iff_suffix]
  constructor
  · rintro ⟨⟨-, rest, rfl⟩, hclose⟩
    rw [List.cons_append, List.cons_append, List.nil_append, List.suffix_cons_iff, List.suffix_cons_iff] at hclose
    obtain ⟨inner, rfl⟩ : ['>', '>'] <:+ rest := by simpa using hclose
    exact ⟨inner, (List.append_assoc _ _ _).symm⟩
  · rintro ⟨inner, rfl⟩
    refine ⟨⟨?_, ?_⟩, List.suffix_append _ _⟩
    · have hopen : Text.bytes ['<', '<'] = 2 := rfl
      have hclose : Text.bytes ['>', '>'] = 2 := rfl
      rw [Text.bytes_append, Text.bytes_append, hopen, hclose]
      omega
    · rw [List.append_assoc]
      exact List.prefix_append _ _

/-! ## Name and type -/

theorem ofInner_typed (hname : ':' ∉ name) (token : Text) :
    ofInner (name ++ ':' :: token) = ⟨name, .ofToken token⟩ := by
  rw [ofInner, Text.cut?_append hname]

theorem ofInner_untyped (hname : ':' ∉ name) : ofInner name = ⟨name, .ofName name⟩ := by
  rw [ofInner, Text.cut?_eq_none hname]

/-- Segments are read by the grammar of placeholders, and both tests for a placeholder agree.  The first colon
ends the name; without one the name is the type if it denotes a kind.  What stands in `raw(…)` is taken as it
is, and cutting it off by bytes never goes through a character. -/
theorem readsGrammar (segment name token expr : Text) :
    ((ofSegment? segment).isSome ↔ ∃ inner, segment = ['<', '<'] ++ inner ++ ['>', '>']) ∧
      (isPlaceholder segment = true ↔ ∃ inner, segment = ['<', '<'] ++ inner ++ ['>', '>']) ∧
      (':' ∉ name → ofSegment? (['<', '<'] ++ (name ++ ':' :: token) ++ ['>', '>']) =
        some ⟨name, .ofToken token⟩) ∧
      (':' ∉ name → ∃ kind, ofSegment? (['<', '<'] ++ name ++ ['>', '>']) = some ⟨name, kind⟩ ∧
        (Kind.Denotes name kind ∨ (∀ k, ¬Kind.Denotes name k) ∧ kind = .segment)) ∧
      (∀ kind, Kind.ofToken token = kind ↔
        Kind.Denotes token kind ∨ (∀ k, ¬Kind.Denotes token k) ∧ kind = .alpha) ∧
      (Kind.ofToken token = .raw expr ↔ ∃ word ∈ Kind.rawWords, token = word ++ expr ++ [')']) ∧
      Kind.rawExprAt? token = some (Kind.rawExpr? token) := by
  refine ⟨isSome_ofSegment?_iff, isPlaceholder_iff, fun hname => ?_, fun hname => ?_,
    fun kind => Kind.getD_known?_eq_iff, Kind.ofToken_eq_raw_iff, Kind.rawExprAt?_eq token⟩
  · rw [ofSegment?_wrapped, ofInner_typed hname]
  · refine ⟨.ofName name, ?_, Kind.getD_known?_eq_iff.1 rfl⟩
    rw [ofSegment?_wrapped, ofInner_untyped hname]

/-- An expression with a colon, a parenthesis and a character of two bytes in it. -/
theorem ofSegment?_of_expression : ':' ∉ "a".toList ∧
    ofSegment? "<<a:RaW(x:y)é)>>".toList = some ⟨"a".toList, .raw "x:y)é".toList⟩ := by
  obtain ⟨-, -, htyped, -, -, hraw, -⟩ :=
    readsGrammar [] "a".toList "RaW(x:y)é)".toList "x:y)é".toList
  have hname : ':' ∉ "a".toList := by decide
  have hkind := hraw.2 ⟨"RaW(".toList, by decide, rfl⟩
  rw [← hkind]
  exact ⟨hname, htyped hname⟩

end Placeholder

end Signpost
