import Signpost.Regex.Read
import Signpost.Proofs.Regex.Steady

/-!
# Rows of tokens

As long as blanks count, a text is a row of tokens whatever is done with them (`Reads`), and reading it
takes one step for each of them (`readTokens_of_reads`).  Blanks count until a token switches `extended`
on (`Token.switchesExtended`), and so a text without such a token is read to its end token by token
(`exists_reads`).

*In a group.*  A row of tokens is the same row when the text stands in a group (`Reads.append_close`).
-/

namespace Signpost.Regex

/-- A text starts with a row of tokens, read off while blanks count, and a rest is left. -/
inductive Reads : Text → List Token → Text → Prop where
  /-- No token. -/
  | nil {t : Text} : Reads t [] t
  /-- One token more. -/
  | cons {c : Char} {t t' rest : Text} {tok : Token} {toks : List Token} :
      Token.next? false c t = some (tok, t') → Reads t' toks rest → Reads (c :: t) (tok :: toks) rest

namespace Reads

variable {t t' rest : Text} {toks toks' : List Token}

theorem append (h : Reads t toks t') (h' : Reads t' toks' rest) : Reads t (toks ++ toks') rest := by
  induction h with
  | nil => exact h'
  | cons hnext _ ih => exact .cons hnext (ih h')

theorem append_close (h : Reads t toks rest) (more : Text) :
    Reads (t ++ ')' :: more) toks (rest ++ ')' :: more) := by
  induction h with
  | nil => exact .nil
  | cons hnext _ ih => exact .cons (Token.next?_steady _ hnext more) ih

/-- Of two rows that a text starts with, the one that leaves nothing has the tokens of the other. -/
theorem subset_of_complete (h : Reads t toks rest) (h' : Reads t toks' []) : toks ⊆ toks' := by
  induction h generalizing toks' with
  | nil => exact List.nil_subset _
  | cons hnext _ ih =>
      cases h' with
      | cons hnext' h' =>
          rw [hnext] at hnext'
          cases hnext'
          exact List.cons_subset_cons _ (ih h')

end Reads

/-- The row of tokens that a text is, with fuel for one turn a token. -/
def tokens? : Nat → Text → Option (List Token)
  | _, [] => some []
  | 0, _ :: _ => none
  | fuel + 1, c :: t => do
    let (tok, rest) ← Token.next? false c t
    let toks ← tokens? fuel rest
    some (tok :: toks)

theorem reads_of_tokens? : ∀ {fuel : Nat} {t : Text} {toks : List Token},
    tokens? fuel t = some toks → Reads t toks []
  | _, [], _, h => by
      rw [tokens?] at h
      cases h
      exact .nil
  | fuel + 1, c :: t, toks, h => by
      obtain ⟨⟨tok, rest⟩, hnext, h⟩ := Option.bind_eq_some_iff.1 h
      obtain ⟨toks', hrest, h⟩ := Option.bind_eq_some_iff.1 h
      cases h
      exact .cons hnext (reads_of_tokens? hrest)

/-- A token that switches the flag `extended` on. -/
def Token.switchesExtended : Token → Bool
  | openFlags changes | setFlags changes => changes.contains (.extended, true)
  | _ => false

/-! ## Reading while blanks count -/

/-- In no open group is the flag `extended` on. -/
def Reading.BlanksCount (r : Reading) : Prop :=
  r.level.flags.extended = false ∧ ∀ l ∈ r.outer, l.flags.extended = false

theorem Flags.apply_extended {f : Flags} (hf : f.extended = false) {changes : List (Flag × Bool)}
    (h : (.extended, true) ∉ changes) : (f.apply changes).extended = false := by
  induction changes generalizing f with
  | nil => exact hf
  | cons change changes ih =>
      refine ih (f := f.set change.2 change.1) ?_ fun hmem => h (List.mem_cons_of_mem _ hmem)
      obtain ⟨flag, on⟩ := change
      cases flag with
      | extended =>
          cases on with
          | false => rfl
          | true => exact absurd List.mem_cons_self h
      | _ => exact hf

theorem Level.repeat?_flags {l l' : Level} {min : Nat} {max : Option Nat} {plain : Bool}
    (h : l.repeat? min max plain = some l') : l'.flags = l.flags := by
  unfold Level.repeat? at h
  split at h
  · split at h
    · cases h
      rfl
    · cases h
  · cases h

namespace Reading

variable {r r' : Reading} {tok : Token}

/-- Blanks count after a token that does not switch `extended` on. -/
theorem BlanksCount.step? (hr : r.BlanksCount) (htok : tok.switchesExtended = false)
    (h : r.step? tok = some r') : r'.BlanksCount := by
  obtain ⟨hlevel, houter⟩ := hr
  have hboth : ∀ l ∈ r.level :: r.outer, l.flags.extended = false := by
    simpa using ⟨hlevel, houter⟩
  cases tok with
  | char | dot | set =>
      obtain ⟨-, -, rfl⟩ := Option.map_eq_some_iff.1 h
      exact ⟨hlevel, houter⟩
  | caret | dollar | textEdge | wordSide | bar =>
      cases h
      exact ⟨hlevel, houter⟩
  | rep =>
      obtain ⟨l, hl, rfl⟩ := Option.map_eq_some_iff.1 h
      exact ⟨(Level.repeat?_flags hl) ▸ hlevel, houter⟩
  | openGroup name =>
      cases name with
      | none =>
          cases h
          exact ⟨hlevel, hboth⟩
      | some name =>
          simp only [Reading.step?] at h
          split at h
          · cases h
          · cases h
            exact ⟨hlevel, hboth⟩
  | openFlags changes =>
      cases h
      exact ⟨Flags.apply_extended hlevel (by simpa [Token.switchesExtended] using htok), hboth⟩
  | closeGroup =>
      simp only [Reading.step?] at h
      split at h
      · cases h
      · next around outer heq =>
          cases h
          rw [heq] at houter
          exact ⟨houter around List.mem_cons_self, fun l hl => houter l (List.mem_cons_of_mem _ hl)⟩
  | setFlags changes =>
      cases h
      exact ⟨Flags.apply_extended hlevel (by simpa [Token.switchesExtended] using htok), houter⟩

/-- Some tokens more. -/
def steps? (r : Reading) (toks : List Token) : Option Reading := toks.foldlM Reading.step? r

theorem steps?_append (r : Reading) (toks toks' : List Token) :
    r.steps? (toks ++ toks') = (r.steps? toks).bind (·.steps? toks') := List.foldlM_append

end Reading

/-- A text is read one token after another. -/
theorem readTokens_of_reads {r r' : Reading} {t rest : Text} {toks : List Token} {fuel : Nat}
    (h : Reads t toks rest) (hr : r.BlanksCount) (htoks : ∀ tok ∈ toks, tok.switchesExtended = false)
    (hread : readTokens fuel r t = some r') :
    ∃ s fuel', r.steps? toks = some s ∧ s.BlanksCount ∧ readTokens fuel' s rest = some r' := by
  induction h generalizing r fuel with
  | nil => exact ⟨r, fuel, rfl, hr, hread⟩
  | cons hnext _ ih =>
      cases fuel with
      | zero => cases hread
      | succ fuel =>
          rw [readTokens, hr.1, skip_false] at hread
          simp only [hnext, Option.bind_eq_bind, Option.bind_some] at hread
          obtain ⟨r₁, hstep, hread⟩ := Option.bind_eq_some_iff.1 hread
          have hr₁ := hr.step? (htoks _ List.mem_cons_self) hstep
          obtain ⟨s, fuel', hs, hcount, hrest⟩ :=
            ih hr₁ (fun tok htok => htoks tok (List.mem_cons_of_mem _ htok)) hread
          refine ⟨s, fuel', ?_, hcount, hrest⟩
          rw [Reading.steps?, List.foldlM_cons, hstep]
          exact hs

/-- A text that is read to its end without a token that switches `extended` on is a row of tokens. -/
theorem exists_reads : ∀ {fuel : Nat} {r r' : Reading} {t : Text}, r.BlanksCount →
    readTokens fuel r t = some r' →
    (∀ toks rest, Reads t toks rest → ∀ tok ∈ toks, tok.switchesExtended = false) →
    ∃ toks, Reads t toks [] ∧ r.steps? toks = some r'
  | 0, _, _, _, _, hread, _ => by cases hread
  | fuel + 1, r, r', t, hr, hread, hall => by
      rw [readTokens, hr.1, skip_false] at hread
      cases t with
      | nil =>
          cases hread
          exact ⟨[], .nil, rfl⟩
      | cons c t =>
          obtain ⟨⟨tok, t'⟩, hnext, hread⟩ := Option.bind_eq_some_iff.1 hread
          obtain ⟨r₁, hstep, hread⟩ := Option.bind_eq_some_iff.1 hread
          have hr₁ := hr.step? (hall [tok] t' (.cons hnext .nil) tok List.mem_cons_self) hstep
          obtain ⟨toks, hreads, hsteps⟩ := exists_reads hr₁ hread fun toks rest h tok htok =>
            hall _ rest (.cons hnext h) tok (List.mem_cons_of_mem _ htok)
          refine ⟨tok :: toks, .cons hnext hreads, ?_⟩
          rw [Reading.steps?, List.foldlM_cons, hstep]
          exact hsteps

/-- A reading that is finished has no group open, and its expression is what it holds. -/
theorem Reading.eq_of_finish? {r : Reading} {e : Expr} (h : r.finish? = some e) :
    r.outer = [] ∧ e = r.level.content.expr := by
  unfold Reading.finish? at h
  split at h
  · next houter =>
      split at h
      · cases h
        exact ⟨houter, rfl⟩
      · cases h
  · cases h

/-- The expression of a text that is a row of tokens is what is read of the tokens. -/
theorem Expr.exists_steps_of_reads {t : Text} {toks : List Token} {e : Expr} (h : Reads t toks [])
    (htoks : ∀ tok ∈ toks, tok.switchesExtended = false) (he : Expr.ofText? t = some e) :
    ∃ r, Reading.steps? {} toks = some r ∧ r.outer = [] ∧ e = r.level.content.expr := by
  obtain ⟨r, hread, hfinish⟩ := Option.bind_eq_some_iff.1 he
  obtain ⟨s, fuel, hsteps, hcount, hrest⟩ := readTokens_of_reads h ⟨rfl, by simp⟩ htoks hread
  obtain rfl : s = r := by
    cases fuel with
    | zero => cases hrest
    | succ fuel =>
        rw [readTokens, hcount.1, skip_false] at hrest
        exact Option.some.inj hrest
  exact ⟨s, hsteps, Reading.eq_of_finish? hfinish⟩

end Signpost.Regex
