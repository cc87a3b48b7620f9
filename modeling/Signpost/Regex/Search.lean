import Signpost.Regex.Prog

/-!
# Searching

A search runs a program from a place in the text, by trying the choices of each split in order of
preference and going back to the last split when a way fails.  What is left to do after a part of the
program is a function, its continuation; the result of a search is what the first way to reach the last
continuation has captured.

The search keeps the splits it has passed and the places where it passed them (`Visited`) and never passes
one again: what follows a split at a place depends on neither the way there nor what was captured, so a
second pass fails where the first failed.  This also ends loops whose body matches the empty text.  A
program with `s` splits on a text of `n` characters therefore passes at most `s * (n + 1)` splits.

A loop has fuel for every place from where it starts to the end of the text, and one more.  It passes its
split at most once at each, so the fuel is never used up.
-/

namespace Signpost.Regex

/-- A part of a text: the first characters of the text from a place on. -/
structure Span where
  /-- The text from its start on. -/
  rest : Text
  /-- The number of its characters. -/
  length : Nat

/-- The part itself. -/
def Span.text (s : Span) : Text := s.rest.take s.length

/-- Names with the part captured under them, latest first. -/
abbrev Captures := List (Text × Span)

/-- A place in the text, and what was captured on the way there. -/
structure Thread where
  /-- The character before the place. -/
  before : Option Char
  /-- The text after the place. -/
  rest : Text
  /-- The number of characters after the place, by which it is told from other places. -/
  left : Nat
  /-- What was captured. -/
  captures : Captures
  /-- The number is that of the text. -/
  left_eq : left = rest.length := by simp

namespace Thread

/-- One character further, if it is of a set. -/
def step? (s : CharSet) (t : Thread) : Option Thread :=
  match h : t.rest with
  | c :: rest =>
    if s.has c.toNat then some ⟨some c, rest, t.left - 1, t.captures, by simp [t.left_eq, h]⟩ else none
  | [] => none

/-- The part from an earlier place, captured under a name. -/
def capture (start : Thread) (name : Text) (t : Thread) : Thread :=
  { t with captures := (name, ⟨start.rest, start.left - t.left⟩) :: t.captures }

end Thread

/-- The splits passed, a row of bits for each place in the text. -/
structure Visited where
  /-- Bit `b` of number `n` in a row says that split `60 * n + b` was passed there.  Rows grow as needed. -/
  rows : Array (Array Nat)

namespace Visited

/-- No split passed, for a text of a length. -/
def fresh (length : Nat) : Visited := ⟨Array.replicate (length + 1) #[]⟩

/-- Whether the bit of a split is set in a row. -/
def bit (row : Array Nat) (split : Nat) : Bool := (row[split / 60]?.getD 0).testBit (split % 60)

/-- The bit of a split set in a row. -/
def setBit (row : Array Nat) (split : Nat) : Array Nat :=
  let i := split / 60
  let row := if i < row.size then row else row ++ Array.replicate (i + 1 - row.size) 0
  row.modify i (· ||| 1 <<< (split % 60))

/-- Whether a split was passed at a place. -/
def has (v : Visited) (split left : Nat) : Bool := bit (v.rows[left]?.getD #[]) split

/-- A split passed at a place. -/
def mark (v : Visited) (split left : Nat) : Visited := ⟨v.rows.modify left (setBit · split)⟩

theorem bit_setBit (row : Array Nat) (split split' : Nat) :
    bit (setBit row split) split' = (bit row split' || decide (split' = split)) := by
  have grown (i j : Nat) :
      (if i < row.size then row else row ++ Array.replicate (i + 1 - row.size) 0)[j]?.getD 0 =
        row[j]?.getD 0 := by
    split
    · rfl
    · rw [Array.getElem?_append]
      split
      · rfl
      · rw [Array.getElem?_replicate]
        split <;> simp_all
  have reaches (i : Nat) :
      i < (if i < row.size then row else row ++ Array.replicate (i + 1 - row.size) 0).size := by
    split
    · assumption
    · simp; omega
  simp only [bit, setBit, Array.getElem?_modify]
  by_cases hi : split / 60 = split' / 60
  · rw [if_pos hi, ← hi, ← grown (split / 60) (split / 60)]
    have h := reaches (split / 60)
    generalize (if split / 60 < row.size then row else _) = grownRow at h ⊢
    rw [Array.getElem?_eq_getElem h]
    by_cases hb : split' = split
    · subst hb
      simp [Nat.testBit_or, Nat.one_shiftLeft]
    · have : split % 60 ≠ split' % 60 := by omega
      simp [Nat.testBit_or, Nat.one_shiftLeft, this, hb]
  · have hs : split' ≠ split := fun h => hi (h ▸ rfl)
    rw [if_neg hi, grown]
    simp [hs]

theorem has_fresh (length split left : Nat) : (fresh length).has split left = false := by
  simp only [has, fresh, Array.getElem?_replicate]
  split <;> simp [bit]

theorem has_mark (v : Visited) (split left split' left' : Nat) :
    (v.mark split left).has split' left' =
      (v.has split' left' || decide (split' = split ∧ left' = left ∧ left < v.rows.size)) := by
  simp only [has, mark, Array.getElem?_modify]
  by_cases hi : left = left'
  · subst hi
    by_cases hs : left < v.rows.size
    · simp [hs, bit_setBit]
    · simp [hs]
  · simp [hi, Ne.symm hi]

end Visited

/-- The captures of a search, if it succeeded, and the splits it passed. -/
abbrev Outcome := Option Captures × Visited

/-- What is left to do from a place on. -/
abbrev Cont := Thread → Visited → Outcome

/-- The first outcome if it succeeded, otherwise another one after it. -/
def Outcome.orElse : Outcome → (Visited → Outcome) → Outcome
  | (some caps, v), _ => (some caps, v)
  | (none, v), next => next v

/-- A split: fails if it was passed at this place, otherwise tries two ways, `again` first if `greedy`. -/
def fork (split : Nat) (greedy : Bool) (again stop : Cont) : Cont := fun t v =>
  if v.has split t.left then (none, v)
  else
    let v := v.mark split t.left
    if greedy then (again t v).orElse (stop t) else (stop t v).orElse (again t)

/-- A split that leads into a body and from its end back to the split. -/
def loop (split : Nat) (greedy : Bool) (body : Cont → Cont) (stop : Cont) : Nat → Cont
  | 0 => fun _ v => (none, v)
  | fuel + 1 => fork split greedy (body (loop split greedy body stop fuel)) stop

/-- Runs a program and then a continuation. -/
def Prog.run : Prog → Cont → Cont
  | empty, k => k
  | chars s, k => fun t v =>
    match t.step? s with
    | some t => k t v
    | none => (none, v)
  | anchor a, k => fun t v => if a.holds t.before t.rest.head? then k t v else (none, v)
  | named name p, k => fun t v => p.run (fun u v => k (t.capture name u) v) t v
  | cat p q, k => p.run (q.run k)
  | alt split p q, k => fork split true (p.run k) (q.run k)
  | opt split greedy p, k => fork split greedy (p.run k) k
  | star split greedy p, k => fun t v => loop split greedy p.run k (t.left + 2) t v
  | plus split greedy p, k => fun t v =>
    p.run (loop split greedy p.run k (t.left + 2)) t v

/-- The last continuation: the search has succeeded. -/
def accept : Cont := fun t v => (some t.captures, v)

/-- Runs a continuation from the start of a text and, as long as it fails, from the places after it. -/
def seek (run : Cont) (before : Option Char) (left : Nat) (rest : Text) (h : left = rest.length)
    (v : Visited) : Option Captures :=
  match run ⟨before, rest, left, [], h⟩ v with
  | (some caps, _) => some caps
  | (none, v) =>
    match rest with
    | [] => none
    | c :: rest => seek run (some c) (left - 1) rest (by simp [h]) v

/-- What the leftmost match in a text captures, of the matches that start there the preferred one. -/
def Prog.search? (p : Prog) (t : Text) : Option Captures :=
  seek (p.run accept) none t.length t rfl (.fresh t.length)

end Signpost.Regex
