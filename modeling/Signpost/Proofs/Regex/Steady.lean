import Mathlib.Data.List.TakeWhile
import Signpost.Regex.Token

/-!
# Reading a token inside a group

A reader takes something off the start of a text.  When the text stands in a group, a closing
parenthesis and anything else follow it.  `Steady f g` says that what `f` reads of a text by itself, `g`
reads of it there, with as much left.  All readers of tokens are steady as long as blanks count
(`Token.next?_steady`).  This is what keeps an expression inside the group it is put in: a token that is
complete by itself does not reach for the parenthesis.

*Two readers.*  `f` and `g` are the same reader except for fuel, of which there may be more inside a group.

*Totals.*  Some readers cannot fail.  They are steady if `some` of them is.
-/

namespace Signpost.Regex

/-- What `f` reads of a text by itself, `g` reads of it inside a group. -/
def Steady {α : Type} (f g : Text → Option (α × Text)) : Prop :=
  ∀ ⦃t a rest⦄, f t = some (a, rest) → ∀ more, g (t ++ ')' :: more) = some (a, rest ++ ')' :: more)

namespace Steady

variable {α β γ : Type}

theorem fail : Steady (α := α) (fun _ => none) fun _ => none :=
  fun _ _ _ h => by cases h

theorem done (a : α) : Steady (fun t => some (a, t)) fun t => some (a, t) := by
  intro t b rest h more
  cases h
  rfl

theorem bind {f f' : Text → Option (α × Text)} {g g' : α → Text → Option (β × Text)}
    (hf : Steady f f') (hg : ∀ a, Steady (g a) (g' a)) :
    Steady (fun t => (f t).bind fun p => g p.1 p.2) fun t => (f' t).bind fun p => g' p.1 p.2 := by
  intro t b rest h more
  obtain ⟨⟨a, rest'⟩, ha, h⟩ := Option.bind_eq_some_iff.1 h
  dsimp only
  rw [hf ha more]
  exact hg a h more

theorem map {f f' : Text → Option (α × Text)} (hf : Steady f f') (h : α → β) :
    Steady (fun t => (f t).map fun p => (h p.1, p.2)) fun t => (f' t).map fun p => (h p.1, p.2) := by
  intro t b rest hb more
  obtain ⟨⟨a, rest'⟩, ha, hb⟩ := Option.map_eq_some_iff.1 hb
  cases hb
  dsimp only
  rw [hf ha more]
  rfl

/-- What does not depend on the text may be asked for first. -/
theorem given {o : Option γ} {f g : γ → Text → Option (α × Text)} (h : ∀ c, Steady (f c) (g c)) :
    Steady (fun t => o.bind fun c => f c t) fun t => o.bind fun c => g c t := by
  cases o with
  | none => exact fail
  | some c => exact h c

theorem ite {p : Prop} [Decidable p] {f f' g g' : Text → Option (α × Text)} (hf : Steady f f')
    (hg : Steady g g') :
    Steady (fun t => if p then f t else g t) fun t => if p then f' t else g' t := by
  by_cases h : p
  · simpa only [if_pos h] using hf
  · simpa only [if_neg h] using hg

/-- A reader with fuel is steady with the length of the text for fuel. -/
theorem length {f : Nat → Text → Option (α × Text)} (h : ∀ m n, m ≤ n → Steady (f m) (f n)) (k : Nat) :
    Steady (fun t => f (t.length + k) t) fun t => f (t.length + k) t := by
  intro t a rest ha more
  exact h (t.length + k) _ (by simp) ha more

end Steady

/-- A text that starts with something else than the parenthesis does so by itself. -/
theorem eq_cons_of_append_close {d : Char} {t more rest : Text} (h : t ++ ')' :: more = d :: rest)
    (hd : d ≠ ')') : ∃ t', t = d :: t' := by
  cases t with
  | nil =>
      cases h
      exact absurd rfl hd
  | cons c t =>
      cases h
      exact ⟨t, rfl⟩

theorem eq_cons_cons_of_append_close {c d : Char} {t more rest : Text}
    (h : t ++ ')' :: more = c :: d :: rest) (hc : c ≠ ')') (hd : d ≠ ')') : ∃ t', t = c :: d :: t' := by
  obtain ⟨t, rfl⟩ := eq_cons_of_append_close h hc
  rw [List.cons_append] at h
  obtain ⟨t, rfl⟩ := eq_cons_of_append_close (List.cons.inj h).2 hd
  exact ⟨t, rfl⟩

theorem skip_false (t : Text) : skip false t = t := rfl

/-- Where a text stops to be of one kind, it does so inside a group if the parenthesis is not of the kind. -/
theorem dropWhile_append_close {p : Char → Bool} (hp : p ')' = false) (t more : Text) :
    (t ++ ')' :: more).dropWhile p = t.dropWhile p ++ ')' :: more := by
  induction t with
  | nil => simp [hp]
  | cons c t ih =>
      rw [List.cons_append]
      cases hc : p c with
      | true => rw [List.dropWhile_cons_of_pos hc, List.dropWhile_cons_of_pos hc, ih]
      | false =>
          rw [List.dropWhile_cons_of_neg (by simp [hc]), List.dropWhile_cons_of_neg (by simp [hc]),
            List.cons_append]

/-! ## Escapes -/

theorem hexFixed?_steady : ∀ n, Steady (hexFixed? false n) (hexFixed? false n)
  | 0 => .done []
  | n + 1 => by
      intro t ds rest h more
      cases t with
      | nil => cases h
      | cons c t =>
          exact Steady.given (o := hexDigit? c)
            (fun d => (hexFixed?_steady n).bind fun ds => .done (d :: ds)) h more

theorem hexBraced?_steady : ∀ m n, m ≤ n → Steady (hexBraced? false m) (hexBraced? false n)
  | 0, _, _ => fun t _ _ h => by cases t <;> cases h
  | m + 1, n + 1, hle => by
      intro t ds rest h more
      cases t with
      | nil => cases h
      | cons c t =>
          have ih := hexBraced?_steady m n (Nat.le_of_succ_le_succ hle)
          exact Steady.ite (p := c == '}') (.done [])
            (.given (o := hexDigit? c) fun d => ih.bind fun ds => .done (d :: ds)) h more

theorem bracedName?_steady : ∀ m n, m ≤ n → Steady (bracedName? false m) (bracedName? false n)
  | 0, _, _ => fun t _ _ h => by cases t <;> cases h
  | m + 1, n + 1, hle => by
      intro t name rest h more
      cases t with
      | nil => cases h
      | cons c t =>
          have ih := bracedName?_steady m n (Nat.le_of_succ_le_succ hle)
          exact Steady.ite (p := c == '}') (.done []) (ih.map (c :: ·)) h more

theorem hexEscape?_steady (kind : Char) :
    Steady (hexEscape? false kind) (hexEscape? false kind) := by
  intro t tok rest h more
  unfold hexEscape? at h ⊢
  rw [skip_false] at h ⊢
  split at h
  · exact ((Steady.length hexBraced?_steady 1).bind fun ds => Steady.ite (p := ds.isEmpty) .fail
      (.given (o := charOfHex? ds) fun c => .done (Token.char c false))) h more
  · next hbrace =>
      split
      · next heq =>
          obtain ⟨t', rfl⟩ := eq_cons_of_append_close heq (by decide)
          exact absurd rfl (hbrace t')
      · exact ((hexFixed?_steady _).bind fun ds => .given (o := charOfHex? ds) fun c =>
          .done (Token.char c (kind == 'x'))) h more

theorem propertyClass?_steady (negated : Bool) :
    Steady (propertyClass? false negated) (propertyClass? false negated) := by
  intro t tok rest h more
  unfold propertyClass? at h ⊢
  dsimp only at h ⊢
  rw [skip_false] at h ⊢
  split at h
  · cases h
  · obtain ⟨⟨name, rest'⟩, hname, h⟩ := Option.bind_eq_some_iff.1 h
    have hname' := Steady.length bracedName?_steady 1 hname more
    refine Option.bind_eq_some_iff.2 ⟨_, hname', ?_⟩
    dsimp only at h ⊢
    generalize cutNotEqual? name = a, Text.cut? ':' name = b, Text.cut? '=' name = c at h ⊢
    rcases a with _ | a
    · rcases b with _ | b
      · rcases c with _ | c
        · exact Steady.given (fun tok => .done tok) h more
        · exact Steady.given (fun tok => .done tok) h more
      · exact Steady.given (fun tok => .done tok) h more
    · exact Steady.given (fun tok => .done tok) h more
  · next c t hbrace =>
      split
      · next heq => cases heq
      · next heq =>
          cases heq
          exact absurd rfl hbrace
      · next heq =>
          cases heq
          exact Steady.ite (p := c == '\\') .fail (.given fun tok => .done tok) h more

/-- With fuel for the whole text the letters and hyphens it starts with are read. -/
theorem sideName_append_close : ∀ {n m : Nat} {t : Text}, t.length ≤ n → t.length < m → ∀ more,
    sideName false m (t ++ ')' :: more) =
      ((sideName false n t).1, (sideName false n t).2 ++ ')' :: more)
  | n, m + 1, [], _, _, more => by
      have h : sideName false n [] = ([], []) := by cases n <;> rfl
      rw [h]
      rfl
  | n + 1, m + 1, c :: t, hn, hm, more => by
      have ih := sideName_append_close (Nat.le_of_succ_le_succ hn) (Nat.lt_of_succ_lt_succ hm) more
      simp only [List.cons_append, sideName, skip_false, ih]
      split <;> rfl

theorem wordEdge?_steady : Steady (wordEdge? false) (wordEdge? false) := by
  intro t tok rest h more
  unfold wordEdge? at h ⊢
  split at h
  · next t =>
      cases t with
      | nil => cases h
      | cons c t =>
          simp only [List.cons_append, skip_false] at h ⊢
          split at h
          · next hc =>
              rw [if_pos hc]
              have hname := sideName_append_close (n := t.length + 1) (t := c :: t)
                (m := (t ++ ')' :: more).length + 1) (by simp) (by simp) more
              rw [List.cons_append] at hname
              rw [hname]
              generalize sideName false (t.length + 1) (c :: t) = name at h ⊢
              obtain ⟨name, after⟩ := name
              dsimp only at h ⊢
              split at h
              · next heq =>
                  cases heq
                  dsimp only [List.cons_append]
                  split at h
                  case h_5 => cases h
                  all_goals
                    cases h
                    simp only [*]
              · cases h
          · next hc =>
              rw [if_neg hc]
              cases h
              rfl
  · next hbrace =>
      split
      · next heq =>
          obtain ⟨t', rfl⟩ := eq_cons_of_append_close heq (by decide)
          exact absurd rfl (hbrace t')
      · exact Steady.done _ h more

theorem escape?_steady : Steady (escape? false) (escape? false) := by
  intro t tok rest h more
  cases t with
  | nil => cases h
  | cons c t =>
      simp only [escape?, List.cons_append] at h ⊢
      split at h
      · next hc =>
          rw [if_pos hc]
          exact Steady.done _ h more
      · next hc =>
          rw [if_neg hc]
          split at h
          all_goals first
            | exact hexEscape?_steady _ h more
            | exact propertyClass?_steady _ h more
            | exact wordEdge?_steady h more
            | exact Steady.done _ h more
            | cases h

/-! ## Classes -/

theorem classAtom?_steady : Steady (classAtom? false) (classAtom? false) := by
  intro t tok rest h more
  unfold classAtom? at h ⊢
  split at h
  · cases h
  · exact escape?_steady h more
  · next c t hc =>
      split
      · next heq => cases heq
      · next heq =>
          cases heq
          exact absurd rfl hc
      · next heq =>
          cases heq
          exact Steady.done _ h more

/-- A closing parenthesis after a hyphen makes an interval no more or less than the end of the text. -/
theorem afterHyphen?_append_close {d : Char} (hd : d ≠ ')') (t more : Text) :
    afterHyphen? false (t ++ ')' :: more) = some d ↔ afterHyphen? false t = some d := by
  cases t with
  | nil => simp [afterHyphen?, hd.symm]
  | cons c t => simp [afterHyphen?]

theorem classItem?_steady : Steady (classItem? false) (classItem? false) := by
  intro t item rest h more
  unfold classItem? at h ⊢
  obtain ⟨⟨first, t⟩, hfirst, h⟩ := Option.bind_eq_some_iff.1 h
  refine Option.bind_eq_some_iff.2 ⟨_, classAtom?_steady hfirst more, ?_⟩
  dsimp only at h ⊢
  rw [skip_false] at h ⊢
  split at h
  · cases h
  · next t =>
      rw [List.cons_append]
      simp only [afterHyphen?_append_close (d := ']') (by decide),
        afterHyphen?_append_close (d := '-') (by decide)]
      split at h
      · next hhyphen =>
          rw [if_pos hhyphen]
          obtain ⟨item', hitem, h⟩ := Option.bind_eq_some_iff.1 h
          cases h
          exact Option.bind_eq_some_iff.2 ⟨item, hitem, rfl⟩
      · next hhyphen =>
          rw [if_neg hhyphen]
          obtain ⟨⟨last, rest'⟩, hlast, h⟩ := Option.bind_eq_some_iff.1 h
          refine Option.bind_eq_some_iff.2 ⟨_, classAtom?_steady hlast more, ?_⟩
          dsimp only at h ⊢
          split at h
          · exact Steady.ite (.done _) .fail h more
          · cases h
  · next hnil hhyphen =>
      obtain ⟨item', hitem, h⟩ := Option.bind_eq_some_iff.1 h
      cases h
      split
      · next heq => cases t <;> simp at heq
      · next heq =>
          obtain ⟨t', rfl⟩ := eq_cons_of_append_close heq (by decide)
          exact absurd rfl (hhyphen t')
      · exact Option.bind_eq_some_iff.2 ⟨item, hitem, rfl⟩

/-- No named class has a parenthesis in its name. -/
theorem named?_of_close_mem {name : Text} (h : ')' ∈ name) : CharSet.named? name = none := by
  have hne : ∀ word : String, ')' ∉ word.toList → String.ofList name ≠ word := by
    rintro word hword rfl
    exact hword (by rwa [String.toList_ofList])
  unfold CharSet.named?
  split
  case h_15 => rfl
  all_goals
    next heq => exact absurd heq (hne _ (by decide))

theorem takeWhile_append_close (p : Char → Bool) {t : Text} {c : Char} {rest : Text}
    (h : t.dropWhile p = c :: rest) (more : Text) :
    (t ++ more).takeWhile p = t.takeWhile p ∧ (t ++ more).dropWhile p = c :: rest ++ more := by
  induction t with
  | nil => cases h
  | cons d t ih =>
      cases hd : p d with
      | true =>
          rw [List.dropWhile_cons_of_pos hd] at h
          obtain ⟨htake, hdrop⟩ := ih h
          simp [hd, htake, hdrop]
      | false =>
          rw [List.dropWhile_cons_of_neg (by simp [hd])] at h
          cases h
          simp [hd]

/-- What follows the colon and the circumflex of a named class. -/
def classWord? (negated : Bool) (t : Text) : Option (Bracket × Text) :=
  match t.dropWhile (· != ':') with
  | ':' :: ']' :: after =>
    (CharSet.named? (t.takeWhile (· != ':'))).map fun s => (.ascii s negated, after)
  | _ => none

theorem classWord?_append_close (negated : Bool) (t more : Text) :
    classWord? negated (t ++ ')' :: more) =
      (classWord? negated t).map fun p => (p.1, p.2 ++ ')' :: more) := by
  unfold classWord?
  cases hdrop : t.dropWhile (· != ':') with
  | nil =>
      have hname : ')' ∈ (t ++ ')' :: more).takeWhile (· != ':') := by
        rw [List.takeWhile_append_of_pos (List.dropWhile_eq_nil_iff.1 hdrop)]
        simp
      rw [named?_of_close_mem hname]
      split <;> rfl
  | cons c after =>
      obtain ⟨htake, hdrop'⟩ := takeWhile_append_close _ hdrop (')' :: more)
      rw [htake, hdrop']
      cases after with
      | nil => split <;> simp_all
      | cons d after =>
          split
          · next heq =>
              cases heq
              simp [Option.map_map, Function.comp_def]
          · next hne =>
              split
              · next heq =>
                  cases heq
                  exact absurd rfl (hne _)
              · rfl

theorem namedClass?_plain {c : Char} (hc : c ≠ '^') (t : Text) :
    namedClass? (':' :: c :: t) = classWord? false (c :: t) := by
  simp only [namedClass?, List.cons.injEq, hc, false_and, imp_self, implies_true]
  rfl

/-- What is or is not a named class is so inside a group. -/
theorem namedClass?_append_close (t more : Text) :
    namedClass? (t ++ ')' :: more) = (namedClass? t).map fun p => (p.1, p.2 ++ ')' :: more) := by
  cases t with
  | nil => rfl
  | cons c t =>
      by_cases hcolon : c = ':'
      · subst hcolon
        cases t with
        | nil =>
            rw [List.cons_append, List.nil_append, namedClass?_plain (by decide)]
            exact classWord?_append_close false [] more
        | cons d t =>
            by_cases hd : d = '^'
            · subst hd
              exact classWord?_append_close true t more
            · rw [List.cons_append, List.cons_append, namedClass?_plain hd, namedClass?_plain hd]
              exact classWord?_append_close false (d :: t) more
      · simp [namedClass?, hcolon]

theorem leadingHyphens_append_close : ∀ {n m : Nat} {t : Text} (items : Bracket), t.length ≤ n →
    t.length ≤ m → ∀ more, leadingHyphens false m items (t ++ ')' :: more) =
      ((leadingHyphens false n items t).1, (leadingHyphens false n items t).2 ++ ')' :: more)
  | n, m, [], items, _, _, more => by
      have h : leadingHyphens false n items [] = (items, []) := by cases n <;> rfl
      rw [h]
      cases m <;> rfl
  | n + 1, m + 1, c :: t, items, hn, hm, more => by
      by_cases hc : c = '-'
      · subst hc
        exact leadingHyphens_append_close (items.add (.char '-')) (Nat.le_of_succ_le_succ hn)
          (Nat.le_of_succ_le_succ hm) more
      · simp [leadingHyphens, hc]

/-- What a class opens with once it is known whether it is negated. -/
def classStart (negated : Bool) (t : Text) : Bool × Bracket × Text :=
  match leadingHyphens false t.length .empty t with
  | (.empty, ']' :: rest) => (negated, .char ']', rest)
  | (items, t) => (negated, items, t)

theorem classStart_append_close (negated : Bool) (t more : Text) :
    classStart negated (t ++ ')' :: more) =
      ((classStart negated t).1, (classStart negated t).2.1, (classStart negated t).2.2 ++ ')' :: more) := by
  unfold classStart
  rw [leadingHyphens_append_close (n := t.length) .empty (Nat.le_refl _) (by simp) more]
  generalize leadingHyphens false t.length .empty t = opening
  obtain ⟨items, rest⟩ := opening
  cases rest with
  | nil => cases items <;> rfl
  | cons c rest =>
      by_cases hc : c = ']'
      · subst hc
        cases items <;> rfl
      · cases items <;> simp [hc]

theorem classOpen_plain {c : Char} (hc : c ≠ '^') (t : Text) :
    classOpen false (c :: t) = classStart false (c :: t) := by
  simp only [classOpen, skip_false, List.cons.injEq, hc, false_and, imp_self, implies_true]
  rfl

theorem classOpen_append_close (t more : Text) :
    classOpen false (t ++ ')' :: more) =
      ((classOpen false t).1, (classOpen false t).2.1, (classOpen false t).2.2 ++ ')' :: more) := by
  cases t with
  | nil => exact classStart_append_close false [] more
  | cons c t =>
      by_cases hc : c = '^'
      · subst hc
        exact classStart_append_close true t more
      · rw [List.cons_append, classOpen_plain hc, classOpen_plain hc]
        exact classStart_append_close false (c :: t) more

theorem classBody?_steady : ∀ m n, m ≤ n → ∀ pending items,
    Steady (classBody? false m pending items) (classBody? false n pending items)
  | 0, _, _, _, _ => fun _ _ _ h => by cases h
  | m + 1, n + 1, hle, pending, items => by
      have ih := classBody?_steady m n (Nat.le_of_succ_le_succ hle)
      intro t body rest h more
      unfold classBody? at h ⊢
      dsimp only at h ⊢
      rw [skip_false] at h ⊢
      split at h
      · cases h
      · next t =>
          rw [List.cons_append]
          simp only [namedClass?_append_close]
          cases hnamed : namedClass? t with
          | some item =>
              rw [hnamed] at h
              exact ih _ _ h more
          | none =>
              rw [hnamed] at h
              obtain ⟨⟨inner, rest'⟩, hinner, h⟩ := Option.bind_eq_some_iff.1 h
              dsimp only [Option.map_none]
              rw [classOpen_append_close]
              exact Option.bind_eq_some_iff.2 ⟨_, ih _ _ hinner more, ih _ _ h more⟩
      · exact Steady.done _ h more
      · exact ih _ _ h more
      · exact ih _ _ h more
      · exact ih _ _ h more
      · next hopen hclose hinter hdiff hsymm =>
          obtain ⟨⟨item, rest'⟩, hitem, h⟩ := Option.bind_eq_some_iff.1 h
          have hitem' := classItem?_steady hitem more
          -- No bracket and no operation starts here, so none does inside a group.
          split
          · next heq => cases t <;> simp at heq
          · next heq =>
              obtain ⟨t', rfl⟩ := eq_cons_of_append_close heq (by decide)
              exact absurd rfl (hopen t')
          · next heq =>
              obtain ⟨t', rfl⟩ := eq_cons_of_append_close heq (by decide)
              exact absurd rfl (hclose t')
          · next heq =>
              obtain ⟨t', rfl⟩ := eq_cons_cons_of_append_close heq (by decide) (by decide)
              exact absurd rfl (hinter t')
          · next heq =>
              obtain ⟨t', rfl⟩ := eq_cons_cons_of_append_close heq (by decide) (by decide)
              exact absurd rfl (hdiff t')
          · next heq =>
              obtain ⟨t', rfl⟩ := eq_cons_cons_of_append_close heq (by decide) (by decide)
              exact absurd rfl (hsymm t')
          · exact Option.bind_eq_some_iff.2 ⟨_, hitem', ih _ _ h more⟩

theorem class?_steady : Steady (class? false) (class? false) := by
  intro t tok rest h more
  unfold class? at h ⊢
  rw [classOpen_append_close]
  obtain ⟨⟨body, rest'⟩, hbody, h⟩ := Option.bind_eq_some_iff.1 h
  cases h
  have hbody' := classBody?_steady _ ((t ++ ')' :: more).length + 1) (by simp) _ _ hbody more
  exact Option.bind_eq_some_iff.2 ⟨_, hbody', rfl⟩

/-! ## Repetitions -/

theorem plainMark_append_close (t more : Text) :
    plainMark (t ++ ')' :: more) = ((plainMark t).1, (plainMark t).2 ++ ')' :: more) := by
  cases t with
  | nil => rfl
  | cons c t =>
      by_cases hc : c = '?'
      · subst hc
        rfl
      · simp [plainMark, hc]

theorem countDigits_append_close : ∀ {n m : Nat} {t : Text}, t.length ≤ n → t.length < m → ∀ more,
    countDigits false m (t ++ ')' :: more) =
      ((countDigits false n t).1, (countDigits false n t).2 ++ ')' :: more)
  | n, m + 1, [], _, _, more => by
      have h : countDigits false n [] = ([], []) := by cases n <;> rfl
      rw [h]
      rfl
  | n + 1, m + 1, c :: t, hn, hm, more => by
      have ih := countDigits_append_close (Nat.le_of_succ_le_succ hn) (Nat.lt_of_succ_lt_succ hm) more
      simp only [List.cons_append, countDigits, skip_false, ih]
      cases decimalDigit? c <;> rfl

theorem count?_steady : Steady (count? false) (count? false) := by
  intro t n rest h more
  unfold count? at h ⊢
  have hspace : (t ++ ')' :: more).dropWhile Unicode.isWhitespace =
      t.dropWhile Unicode.isWhitespace ++ ')' :: more := dropWhile_append_close (by decide) t more
  have hle : (t.dropWhile Unicode.isWhitespace).length ≤ t.length :=
    (List.dropWhile_suffix _).length_le
  rw [hspace, countDigits_append_close (n := t.length) hle (by simp; omega)]
  dsimp only at h ⊢
  split at h
  · cases h
  · next hvalue =>
      rw [if_neg hvalue]
      cases h
      rw [skip_false, skip_false, dropWhile_append_close (by decide)]

/-- What follows the counts of a repetition. -/
def countedEnd (min : Nat) (max : Option Nat) : Text → Option (Token × Text)
  | '}' :: rest =>
    let (plain, rest) := plainMark rest
    if max.all (min ≤ ·) then some (.rep min max plain, rest) else none
  | _ => none

theorem countedEnd_steady (min : Nat) (max : Option Nat) :
    Steady (countedEnd min max) (countedEnd min max) := by
  intro t tok rest h more
  unfold countedEnd at h
  split at h
  · simp only [List.cons_append, countedEnd, plainMark_append_close]
    dsimp only at h
    split at h
    · next hle =>
        rw [if_pos hle]
        cases h
        rfl
    · cases h
  · cases h

theorem counted?_steady : Steady (counted? false) (counted? false) := by
  intro t tok rest h more
  obtain ⟨⟨min, t⟩, hmin, h⟩ := Option.bind_eq_some_iff.1 h
  refine Option.bind_eq_some_iff.2 ⟨_, count?_steady hmin more, ?_⟩
  dsimp only at h ⊢
  split at h
  · next t =>
      rw [List.cons_append]
      rw [skip_false] at h
      split at h
      · exact countedEnd_steady min none (t := '}' :: _) h more
      · next hbrace =>
          obtain ⟨⟨max, t'⟩, hmax, h⟩ := Option.bind_eq_some_iff.1 h
          have hmax' := count?_steady hmax more
          simp only [skip_false]
          split
          · next heq =>
              obtain ⟨t', rfl⟩ := eq_cons_of_append_close heq (by decide)
              exact absurd rfl (hbrace t')
          · exact Option.bind_eq_some_iff.2 ⟨_, hmax', countedEnd_steady min (some max) h more⟩
  · next hcomma =>
      split
      · next heq =>
          obtain ⟨t', rfl⟩ := eq_cons_of_append_close heq (by decide)
          exact absurd rfl (hcomma t')
      · exact countedEnd_steady min (some min) h more

/-! ## Groups -/

theorem groupName?_steady (atStart : Bool) : Steady (groupName? atStart) (groupName? atStart) := by
  intro t
  induction t generalizing atStart with
  | nil => exact fun _ _ h => by cases h
  | cons c t ih =>
      intro name rest h more
      unfold groupName? at h
      rw [List.cons_append, groupName?]
      split at h
      · next hc =>
          rw [if_pos hc]
          cases h
          rfl
      · next hc =>
          rw [if_neg hc]
          split at h
          · next hname =>
              rw [if_pos hname]
              obtain ⟨⟨name', rest'⟩, htail, h⟩ := Option.map_eq_some_iff.1 h
              cases h
              rw [ih false htail more]
              rfl
          · cases h

theorem flagChanges?_steady (on : Bool) (seen : List Flag) (afterHyphen : Bool) :
    Steady (flagChanges? on seen afterHyphen) (flagChanges? on seen afterHyphen) := by
  intro t
  induction t generalizing on seen afterHyphen with
  | nil => exact fun _ _ h => by cases h
  | cons c t ih =>
      intro changes rest h more
      unfold flagChanges? at h
      rw [List.cons_append, flagChanges?]
      split at h
      · next hend =>
          rw [if_pos hend]
          split at h
          · cases h
          · next hhyphen =>
              rw [if_neg hhyphen]
              cases h
              rfl
      · next hend =>
          rw [if_neg hend]
          split at h
          · next hhyphen =>
              rw [if_pos hhyphen]
              split at h
              · next hon =>
                  rw [if_pos hon]
                  exact ih _ _ _ h more
              · cases h
          · next hhyphen =>
              rw [if_neg hhyphen]
              obtain ⟨flag, hflag, h⟩ := Option.bind_eq_some_iff.1 h
              refine Option.bind_eq_some_iff.2 ⟨flag, hflag, ?_⟩
              split at h
              · cases h
              · next hseen =>
                  rw [if_neg hseen]
                  obtain ⟨⟨changes', rest'⟩, htail, h⟩ := Option.bind_eq_some_iff.1 h
                  cases h
                  exact Option.bind_eq_some_iff.2 ⟨_, ih _ _ _ htail more, rfl⟩

/-- What follows the angle bracket that opens a name. -/
def namedGroup? (t : Text) : Option (Token × Text) :=
  (groupName? true t).bind fun p =>
    if p.1.isEmpty then none else some (.openGroup (some p.1), p.2)

theorem namedGroup?_steady : Steady namedGroup? namedGroup? :=
  (groupName?_steady true).bind fun name => .ite (p := name.isEmpty) .fail
    (.done (Token.openGroup (some name)))

theorem group?_steady : Steady (group? false) (group? false) := by
  intro t tok rest h more
  unfold group? at h ⊢
  dsimp only at h ⊢
  rw [skip_false] at h ⊢
  split at h
  · cases h
  · cases h
  · cases h
  · cases h
  · exact namedGroup?_steady h more
  · next t hequals hnot =>
      cases t with
      | nil => cases h
      | cons c t =>
          have hc : c ≠ '=' := fun hc => hequals t (by rw [hc])
          have hd : c ≠ '!' := fun hd => hnot t (by rw [hd])
          simp only [List.cons_append, List.cons.injEq, hc, hd, false_and, imp_self, implies_true]
          exact namedGroup?_steady h more
  · next t h₁ h₂ h₃ h₄ h₅ h₆ =>
      rw [List.cons_append]
      split
      · next heq =>
          obtain ⟨t', rfl⟩ := eq_cons_of_append_close (List.cons.inj heq).2 (by decide)
          exact absurd rfl (h₁ t')
      · next heq =>
          obtain ⟨t', rfl⟩ := eq_cons_of_append_close (List.cons.inj heq).2 (by decide)
          exact absurd rfl (h₂ t')
      · next heq =>
          obtain ⟨t', rfl⟩ := eq_cons_cons_of_append_close (List.cons.inj heq).2 (by decide) (by decide)
          exact absurd rfl (h₃ t')
      · next heq =>
          obtain ⟨t', rfl⟩ := eq_cons_cons_of_append_close (List.cons.inj heq).2 (by decide) (by decide)
          exact absurd rfl (h₄ t')
      · next heq =>
          obtain ⟨t', rfl⟩ := eq_cons_cons_of_append_close (List.cons.inj heq).2 (by decide) (by decide)
          exact absurd rfl (h₅ t')
      · next heq =>
          obtain ⟨t', rfl⟩ := eq_cons_of_append_close (List.cons.inj heq).2 (by decide)
          exact absurd rfl (h₆ t')
      · next heq =>
          cases heq
          split at h
          · next hflags =>
              rw [flagChanges?_steady _ _ _ hflags more]
              exact Steady.done _ h more
          · next changes t' hflags =>
              rw [flagChanges?_steady _ _ _ hflags more]
              exact Steady.ite (p := changes.isEmpty) .fail (.done (Token.setFlags changes)) h more
          · cases h
      · next hmark => exact absurd rfl (hmark _)
  · next h₁ h₂ h₃ h₄ h₅ h₆ hmark =>
      cases h
      cases t with
      | nil => rfl
      | cons c t =>
          have hc : c ≠ '?' := fun hc => hmark t (by rw [hc])
          simp [hc]

/-! ## Tokens -/

/-- A token that a text starts with is the token that it starts with inside a group. -/
theorem Token.next?_steady (c : Char) : Steady (Token.next? false c) (Token.next? false c) := by
  intro t tok rest h more
  unfold Token.next? at h ⊢
  split at h
  all_goals first
    | exact group?_steady h more
    | exact class?_steady h more
    | exact counted?_steady h more
    | exact escape?_steady h more
    | exact Steady.done _ h more
    | skip
  all_goals
    simp only [plainMark_append_close]
    cases h
    rfl

end Signpost.Regex
