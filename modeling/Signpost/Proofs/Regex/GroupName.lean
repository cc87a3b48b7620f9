import Signpost.Proofs.Regex.Group

/-!
# Names of groups

The name of a group is read up to the first closing angle bracket.  So no name has that bracket in it,
wherever in an expression it is given (`Expr.close_not_mem_names`).

*Names put into a text.*  A text without the bracket, written between `(?P<` and `>`, is read as a name as a
whole or not at all (`isGroupName_of_next?`), and whether it is read does not depend on what follows
(`IsGroupName`).
-/

namespace Signpost.Regex

/-- What is read as a name stands before the first closing bracket, and is read there before any rest. -/
theorem groupName?_eq_some {atStart : Bool} {t name rest : Text}
    (h : groupName? atStart t = some (name, rest)) :
    t = name ++ '>' :: rest ∧ '>' ∉ name ∧
      ∀ rest', groupName? atStart (name ++ '>' :: rest') = some (name, rest') := by
  induction t generalizing atStart name with
  | nil => cases h
  | cons c t ih =>
      unfold groupName? at h
      split at h
      · next hc =>
          cases h
          exact ⟨by rw [eq_of_beq hc]; rfl, List.not_mem_nil, fun _ => rfl⟩
      · next hc =>
          split at h
          · next hname =>
              obtain ⟨⟨name', rest''⟩, htail, h⟩ := Option.map_eq_some_iff.1 h
              cases h
              obtain ⟨rfl, hclose, hread⟩ := ih htail
              refine ⟨rfl, ?_, fun rest' => ?_⟩
              · rw [List.mem_cons, not_or]
                exact ⟨fun heq => hc (beq_iff_eq.2 heq.symm), hclose⟩
              · rw [List.cons_append, groupName?, if_neg hc, if_pos hname, hread]
                rfl
          · cases h

/-! ## Names put into a text -/

/-- A text that is read as the name of a group, whatever follows the bracket that ends it. -/
structure IsGroupName (name : Text) : Prop where
  /-- It is not empty. -/
  ne_nil : name ≠ []
  /-- It is read to the bracket. -/
  read : ∀ rest, groupName? true (name ++ '>' :: rest) = some (name, rest)

theorem IsGroupName.next? {name : Text} (h : IsGroupName name) (rest : Text) :
    Token.next? false '(' ('?' :: 'P' :: '<' :: (name ++ '>' :: rest)) =
      some (.openGroup (some name), rest) := by
  show namedGroup? (name ++ '>' :: rest) = _
  rw [namedGroup?, h.read, Option.bind_some, if_neg (by simpa using h.ne_nil)]

theorem takeWhile_ne_close {name : Text} (hname : '>' ∉ name) (rest : Text) :
    (name ++ '>' :: rest).takeWhile (· != '>') = name := by
  rw [List.takeWhile_append_of_pos, List.takeWhile_cons_of_neg (by simp), List.append_nil]
  intro c hc
  rw [bne_iff_ne]
  rintro rfl
  exact hname hc

/-- What is read where a text without the bracket stands for a name is that text. -/
theorem isGroupName_of_next? {name rest rest' : Text} {tok : Token} (hname : '>' ∉ name)
    (h : Token.next? false '(' ('?' :: 'P' :: '<' :: (name ++ '>' :: rest)) = some (tok, rest')) :
    IsGroupName name := by
  obtain ⟨⟨read, left⟩, hread, h⟩ := Option.bind_eq_some_iff.1
    (show namedGroup? (name ++ '>' :: rest) = _ from h)
  dsimp only at h
  split at h
  · cases h
  · next hne =>
      obtain ⟨hcut, hclose, hall⟩ := groupName?_eq_some hread
      obtain rfl : name = read := by
        rw [← takeWhile_ne_close hname rest, hcut, takeWhile_ne_close hclose]
      exact ⟨by simpa using hne, hall⟩

/-! ## Tokens that open a group

Only an opening parenthesis begins a group, so every other reader of a token is passed over. -/

section Other

variable {x : Bool} {t rest : Text} {name : Option Text}

theorem counted?_ne_openGroup : counted? x t ≠ some (.openGroup name, rest) := by
  intro h
  obtain ⟨⟨min, t⟩, -, h⟩ := Option.bind_eq_some_iff.1 h
  dsimp only at h
  split at h
  · split at h
    · repeat' split at h
      all_goals cases h
    · obtain ⟨⟨max, t⟩, -, h⟩ := Option.bind_eq_some_iff.1 h
      repeat' split at h
      all_goals cases h
  · repeat' split at h
    all_goals cases h

theorem hexEscape?_ne_openGroup {kind : Char} : hexEscape? x kind t ≠ some (.openGroup name, rest) := by
  intro h
  unfold hexEscape? at h
  split at h
  · obtain ⟨⟨ds, t⟩, -, h⟩ := Option.bind_eq_some_iff.1 h
    dsimp only at h
    split at h
    · cases h
    · obtain ⟨c, -, h⟩ := Option.bind_eq_some_iff.1 h
      cases h
  · obtain ⟨⟨ds, t⟩, -, h⟩ := Option.bind_eq_some_iff.1 h
    obtain ⟨c, -, h⟩ := Option.bind_eq_some_iff.1 h
    cases h

theorem propertyClass?_ne_openGroup {negated : Bool} :
    propertyClass? x negated t ≠ some (.openGroup name, rest) := by
  have hanswer : ∀ {o : Option Unicode.Ranges} {negated : Bool} {rest' : Text},
      ((o.map fun s => Token.set (.property s negated)).bind fun tok => some (tok, rest')) ≠
        some (.openGroup name, rest) := by
    rintro (_ | s) negated rest' h <;> cases h
  intro h
  unfold propertyClass? at h
  split at h
  · cases h
  · obtain ⟨⟨word, t⟩, -, h⟩ := Option.bind_eq_some_iff.1 h
    dsimp only at h
    split at h <;> exact hanswer h
  · dsimp only at h
    split at h
    · cases h
    · exact hanswer h

theorem wordEdge?_ne_openGroup : wordEdge? x t ≠ some (.openGroup name, rest) := by
  intro h
  unfold wordEdge? at h
  repeat' split at h
  all_goals cases h

theorem escape?_ne_openGroup : escape? x t ≠ some (.openGroup name, rest) := by
  intro h
  cases t with
  | nil => cases h
  | cons c t =>
      simp only [escape?] at h
      split at h
      · cases h
      · split at h
        all_goals first
          | exact hexEscape?_ne_openGroup h
          | exact propertyClass?_ne_openGroup h
          | exact wordEdge?_ne_openGroup h
          | cases h

theorem class?_ne_openGroup : class? x t ≠ some (.openGroup name, rest) := by
  intro h
  obtain ⟨⟨body, t⟩, -, h⟩ := Option.bind_eq_some_iff.1 h
  cases h

end Other

theorem close_not_mem_of_namedGroup? {t name rest : Text}
    (h : namedGroup? t = some (.openGroup (some name), rest)) : '>' ∉ name := by
  obtain ⟨⟨name', rest'⟩, hname, h⟩ := Option.bind_eq_some_iff.1 h
  dsimp only at h
  split at h <;> cases h
  exact (groupName?_eq_some hname).2.1

theorem close_not_mem_of_group? {x : Bool} {t name rest : Text}
    (h : group? x t = some (.openGroup (some name), rest)) : '>' ∉ name := by
  unfold group? at h
  dsimp only at h
  split at h
  any_goals cases h
  · exact close_not_mem_of_namedGroup? h
  · exact close_not_mem_of_namedGroup? h
  · split at h
    · cases h
    · split at h <;> cases h
    · cases h

/-- No name that a group is given holds the bracket that ends names. -/
theorem Token.close_not_mem_of_next? {x : Bool} {c : Char} {t name rest : Text}
    (h : Token.next? x c t = some (.openGroup (some name), rest)) : '>' ∉ name := by
  unfold Token.next? at h
  split at h
  all_goals first
    | exact close_not_mem_of_group? h
    | exact absurd h class?_ne_openGroup
    | exact absurd h counted?_ne_openGroup
    | exact absurd h escape?_ne_openGroup
    | cases h

/-! ## Names of an expression -/

/-- A token gives the name that it starts a group with and no other. -/
theorem Reading.step?_names {r r' : Reading} {tok : Token} (h : r.step? tok = some r') :
    r'.names = r.names ∨ ∃ name, tok = .openGroup (some name) ∧ r'.names = name :: r.names := by
  cases tok with
  | char | dot | set | rep =>
      obtain ⟨-, -, rfl⟩ := Option.map_eq_some_iff.1 h
      exact .inl rfl
  | caret | dollar | textEdge | wordSide | openFlags | bar | setFlags =>
      cases h
      exact .inl rfl
  | openGroup name =>
      cases name with
      | none =>
          cases h
          exact .inl rfl
      | some name =>
          simp only [Reading.step?] at h
          split at h <;> cases h
          exact .inr ⟨name, rfl, rfl⟩
  | closeGroup =>
      simp only [Reading.step?] at h
      split at h <;> cases h
      exact .inl rfl

/-- Whatever flags it switches on, a text gives names without the bracket that ends them, and captures under
names that were given. -/
theorem readTokens_named {fuel : Nat} {r r' : Reading} {t : Text} (h : readTokens fuel r t = some r')
    (hr : r.Named) (hnames : ∀ name ∈ r.names, '>' ∉ name) :
    r'.Named ∧ ∀ name ∈ r'.names, '>' ∉ name := by
  induction fuel generalizing r t with
  | zero => cases h
  | succ fuel ih =>
      rw [readTokens] at h
      split at h
      · cases h
        exact ⟨hr, hnames⟩
      · next c rest _ =>
          obtain ⟨⟨tok, rest'⟩, hnext, h⟩ := Option.bind_eq_some_iff.1 h
          obtain ⟨r₁, hstep, h⟩ := Option.bind_eq_some_iff.1 h
          refine ih h (hr.step? hstep) ?_
          rcases Reading.step?_names hstep with hsame | ⟨name, rfl, hmore⟩
          · rwa [hsame]
          · rw [hmore]
            exact List.forall_mem_cons.2 ⟨Token.close_not_mem_of_next? hnext, hnames⟩

/-- An expression captures under names without the bracket that ends them. -/
theorem Expr.close_not_mem_names {t : Text} {e : Expr} (he : Expr.ofText? t = some e) :
    ∀ name ∈ e.names, '>' ∉ name := by
  obtain ⟨r, hread, hfinish⟩ := Option.bind_eq_some_iff.1 he
  obtain ⟨-, rfl⟩ := Reading.eq_of_finish? hfinish
  obtain ⟨hnamed, hnames⟩ := readTokens_named hread Reading.named_empty (by simp)
  intro name hname
  exact hnames name ((hnamed.levels _ List.mem_cons_self).content hname)

end Signpost.Regex
