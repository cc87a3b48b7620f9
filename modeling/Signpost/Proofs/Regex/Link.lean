import Signpost.Regex.Search

/-!
# Links between places

What a program or an expression does to a text is a relation between the place where it starts, the
place where it ends, and what it captures on the way: a *link*.  Links put together like expressions, in
sequence (`Link.comp`), by choice (`Link.either`) and by repetition (`Link.times`, `Link.many`), and a
sequence of links may be bracketed in any way (`Link.comp_assoc`).

*Places.*  A search goes forwards only, so a place is the character before it and the text after it
(`Spot`).  `Spot.Takes x taken y` says that the text between `x` and `y` is `taken`.

*Captures.*  A link captures latest first, as a search does.
-/

namespace Signpost.Regex

/-! ## Places -/

/-- A place in a text: the character before it and the text after it. -/
structure Spot where
  /-- The character before, if there is one. -/
  before : Option Char
  /-- The text after. -/
  rest : Text

/-- From one place to another over a text. -/
inductive Spot.Takes : Spot → Text → Spot → Prop where
  /-- No character. -/
  | nil {x : Spot} : Takes x [] x
  /-- One character more. -/
  | cons {before : Option Char} {c : Char} {rest taken : Text} {y : Spot} :
      Takes ⟨some c, rest⟩ taken y → Takes ⟨before, c :: rest⟩ (c :: taken) y

namespace Spot

/-- The start of a text. -/
def start (t : Text) : Spot := ⟨none, t⟩

theorem Takes.rest_eq {x y : Spot} {taken : Text} (h : x.Takes taken y) :
    x.rest = taken ++ y.rest := by
  induction h with
  | nil => rfl
  | cons _ ih =>
      rw [List.cons_append, ← ih]

theorem Takes.append {x y z : Spot} {s t : Text} (h₁ : x.Takes s y) (h₂ : y.Takes t z) :
    x.Takes (s ++ t) z := by
  induction h₁ with
  | nil => exact h₂
  | cons _ ih => exact .cons (ih h₂)

theorem Takes.nil_iff {x y : Spot} : x.Takes [] y ↔ y = x := by
  constructor
  · intro h
    cases h
    rfl
  · rintro rfl
    exact .nil

/-- A text that is taken in two parts is taken over a place between them. -/
theorem Takes.split {s t : Text} : ∀ {x z : Spot}, x.Takes (s ++ t) z →
    ∃ y, x.Takes s y ∧ y.Takes t z := by
  induction s with
  | nil => exact fun h => ⟨_, .nil, h⟩
  | cons c s ih =>
      intro x z h
      cases h with
      | cons h =>
          obtain ⟨y, h₁, h₂⟩ := ih h
          exact ⟨y, .cons h₁, h₂⟩

/-- Whatever a text starts with can be taken. -/
theorem exists_takes (taken : Text) : ∀ {x : Spot} {rest : Text}, x.rest = taken ++ rest →
    ∃ y, x.Takes taken y ∧ y.rest = rest := by
  induction taken with
  | nil => exact fun h => ⟨_, .nil, h⟩
  | cons c taken ih =>
      intro x rest h
      obtain ⟨before, all⟩ := x
      cases h
      obtain ⟨y, hy, hrest⟩ := ih (x := ⟨some c, taken ++ rest⟩) rfl
      exact ⟨y, .cons hy, hrest⟩

/-- The part of the text between two places, as a search records it. -/
def span (x y : Spot) : Span := ⟨x.rest, x.rest.length - y.rest.length⟩

/-- The span between two places holds the text between them. -/
theorem Takes.span_text {x y : Spot} {taken : Text} (h : x.Takes taken y) :
    (x.span y).text = taken := by
  simp only [span, Span.text]
  rw [h.rest_eq, List.length_append, Nat.add_sub_cancel, List.take_left]

end Spot

/-! ## Links -/

/-- A relation between a start, an end and what is captured between them, latest first. -/
abbrev Link := Spot → Spot → Captures → Prop

namespace Link

variable {R S T : Link} {x y z : Spot} {cs : Captures}

/-- Stays. -/
def skip : Link := fun x y cs => y = x ∧ cs = []

/-- Takes one character of a set. -/
def char (s : CharSet) : Link := fun x y cs => ∃ c, s.has c.toNat ∧ x.Takes [c] y ∧ cs = []

/-- Takes a text. -/
def text (t : Text) : Link := fun x y cs => x.Takes t y ∧ cs = []

/-- Stays where a condition holds. -/
def test (a : Anchor) : Link := fun x y cs => a.holds x.before x.rest.head? ∧ y = x ∧ cs = []

/-- Captures under a name what a link takes. -/
def capture (name : Text) (R : Link) : Link := fun x y cs =>
  ∃ ds, R x y ds ∧ cs = (name, x.span y) :: ds

/-- One link after another. -/
def comp (R S : Link) : Link := fun x z cs => ∃ y ds es, R x y ds ∧ S y z es ∧ cs = es ++ ds

/-- One link or another. -/
def either (R S : Link) : Link := fun x y cs => R x y cs ∨ S x y cs

/-- A link a number of times. -/
def times (R : Link) : Nat → Link
  | 0 => skip
  | n + 1 => R.comp (R.times n)

/-- A link any number of times. -/
def many (R : Link) : Link := fun x y cs => ∃ n, R.times n x y cs

theorem comp_assoc (R S T : Link) : (R.comp S).comp T = R.comp (S.comp T) := by
  funext x w cs
  apply propext
  constructor
  · intro hway
    obtain ⟨z, _, es, ⟨y, ds, ds', hR, hS, rfl⟩, hT, rfl⟩ := hway
    exact ⟨y, ds, es ++ ds', hR, ⟨z, ds', es, hS, hT, rfl⟩, by rw [List.append_assoc]⟩
  · intro hway
    obtain ⟨y, ds, _, hR, ⟨z, ds', es, hS, hT, rfl⟩, rfl⟩ := hway
    exact ⟨z, ds' ++ ds, es, ⟨y, ds, ds', hR, hS, rfl⟩, hT, by rw [List.append_assoc]⟩

@[simp] theorem skip_comp (R : Link) : skip.comp R = R := by
  funext x y cs
  apply propext
  constructor
  · intro hway
    obtain ⟨z, ds, es, ⟨rfl, rfl⟩, h, rfl⟩ := hway
    rwa [List.append_nil]
  · intro h
    exact ⟨x, [], cs, ⟨rfl, rfl⟩, h, by rw [List.append_nil]⟩

@[simp] theorem comp_skip (R : Link) : R.comp skip = R := by
  funext x y cs
  apply propext
  constructor
  · intro hway
    obtain ⟨z, ds, es, h, ⟨rfl, rfl⟩, rfl⟩ := hway
    exact h
  · intro h
    exact ⟨y, cs, [], h, ⟨rfl, rfl⟩, rfl⟩

theorem text_nil : text [] = skip := by
  funext x y cs
  simp only [text, skip, Spot.Takes.nil_iff]

theorem text_append (s t : Text) : text (s ++ t) = (text s).comp (text t) := by
  funext x z cs
  apply propext
  constructor
  · intro hway
    obtain ⟨h, rfl⟩ := hway
    obtain ⟨y, h₁, h₂⟩ := h.split
    exact ⟨y, [], [], ⟨h₁, rfl⟩, ⟨h₂, rfl⟩, rfl⟩
  · intro hway
    obtain ⟨y, _, _, ⟨h₁, rfl⟩, ⟨h₂, rfl⟩, rfl⟩ := hway
    exact ⟨h₁.append h₂, rfl⟩

/-! ## Repetition -/

theorem times_add (R : Link) (m n : Nat) : R.times (m + n) = (R.times m).comp (R.times n) := by
  induction m with
  | zero => rw [Nat.zero_add, times, skip_comp]
  | succ m ih => rw [Nat.succ_add, times, times, ih, comp_assoc]

theorem times_succ (R : Link) (n : Nat) : R.times (n + 1) = (R.times n).comp R := by
  rw [times_add, times, times, comp_skip]

/-- Any number of times is once and any number of times, or none. -/
theorem many_eq (R : Link) : R.many = (R.comp R.many).either skip := by
  funext x y cs
  apply propext
  constructor
  · intro hway
    obtain ⟨n, h⟩ := hway
    cases n with
    | zero => exact .inr h
    | succ n =>
        obtain ⟨z, ds, es, hR, hn, rfl⟩ := h
        exact .inl ⟨z, ds, es, hR, ⟨n, hn⟩, rfl⟩
  · rintro (⟨z, ds, es, hR, ⟨n, hn⟩, rfl⟩ | h)
    · exact ⟨n + 1, z, ds, es, hR, hn, rfl⟩
    · exact ⟨0, h⟩

/-! ## What all links keep -/

/-- A link that goes forwards over some text. -/
def Forward (R : Link) : Prop := ∀ ⦃x y cs⦄, R x y cs → ∃ taken, x.Takes taken y

theorem Forward.skip : Forward skip := by
  rintro x y cs ⟨rfl, -⟩
  exact ⟨[], .nil⟩

theorem Forward.comp (hR : Forward R) (hS : Forward S) : Forward (R.comp S) := by
  rintro x z cs ⟨y, ds, es, h₁, h₂, -⟩
  obtain ⟨s, hs⟩ := hR h₁
  obtain ⟨t, ht⟩ := hS h₂
  exact ⟨s ++ t, hs.append ht⟩

theorem Forward.times (hR : Forward R) : ∀ n, Forward (R.times n)
  | 0 => .skip
  | n + 1 => hR.comp (Forward.times hR n)

/-- A link that captures under some names only. -/
def Within (names : List Text) (R : Link) : Prop :=
  ∀ ⦃x y cs⦄, R x y cs → ∀ c ∈ cs, c.1 ∈ names

theorem Within.mono {names more : List Text} (h : Within names R) (hsub : names ⊆ more) :
    Within more R := fun _ _ _ hR c hc => hsub (h hR c hc)

theorem Within.skip {names : List Text} : Within names skip := by
  rintro x y cs ⟨-, rfl⟩ c hc
  cases hc

theorem Within.comp {names : List Text} (hR : Within names R) (hS : Within names S) :
    Within names (R.comp S) := by
  rintro x z cs ⟨y, ds, es, h₁, h₂, rfl⟩ c hc
  rcases List.mem_append.1 hc with hc | hc
  · exact hS h₂ c hc
  · exact hR h₁ c hc

theorem Within.times {names : List Text} (hR : Within names R) : ∀ n, Within names (R.times n)
  | 0 => .skip
  | n + 1 => hR.comp (Within.times hR n)

end Link

end Signpost.Regex
