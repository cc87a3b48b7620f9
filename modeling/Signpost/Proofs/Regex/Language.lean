import Signpost.Proofs.Regex.Meaning

/-!
# Links that only take

What many expressions match is a set of texts, whatever stands around it.  Such a link takes any text of
the set and captures nothing (`Link.takes`).  Texts, characters, runs of characters and sequences of these
are of this kind.
-/

namespace Signpost.Regex

namespace Link

/-- Takes any of some texts. -/
def takes (L : Text → Prop) : Link := fun x y cs => ∃ v, L v ∧ x.Takes v y ∧ cs = []

variable {s : CharSet} {x y : Spot} {cs : Captures}

theorem text_eq_takes (t : Text) : text t = takes (· = t) := by
  funext x y cs
  apply propext
  constructor
  · intro hway
    obtain ⟨h, rfl⟩ := hway
    exact ⟨t, rfl, h, rfl⟩
  · intro hway
    obtain ⟨_, rfl, h, rfl⟩ := hway
    exact ⟨h, rfl⟩

theorem takes_comp (L M : Text → Prop) :
    (takes L).comp (takes M) = takes fun v => ∃ a b, L a ∧ M b ∧ v = a ++ b := by
  funext x z cs
  apply propext
  constructor
  · intro hway
    obtain ⟨y, _, _, ⟨a, ha, hx, rfl⟩, ⟨b, hb, hy, rfl⟩, rfl⟩ := hway
    exact ⟨a ++ b, ⟨a, b, ha, hb, rfl⟩, hx.append hy, rfl⟩
  · intro hway
    obtain ⟨_, ⟨a, b, ha, hb, rfl⟩, h, rfl⟩ := hway
    obtain ⟨y, hx, hy⟩ := h.split
    exact ⟨y, [], [], ⟨a, ha, hx, rfl⟩, ⟨b, hb, hy, rfl⟩, rfl⟩

theorem takes_congr {L M : Text → Prop} (h : ∀ v, L v ↔ M v) : takes L = takes M := by
  rw [funext fun v => propext (h v)]

/-! ## Runs of characters -/

/-- A number of characters of a set. -/
theorem times_char (s : CharSet) (n : Nat) :
    (char s).times n = takes fun v => v.length = n ∧ ∀ c ∈ v, s.has c.toNat := by
  induction n with
  | zero =>
      funext x y cs
      apply propext
      constructor
      · intro hway
        obtain ⟨rfl, rfl⟩ := hway
        exact ⟨[], ⟨rfl, by simp⟩, .nil, rfl⟩
      · intro hway
        obtain ⟨v, ⟨hv, -⟩, h, rfl⟩ := hway
        rw [List.length_eq_zero_iff.1 hv, Spot.Takes.nil_iff] at h
        exact ⟨h, rfl⟩
  | succ n ih =>
      rw [times, ih]
      funext x z cs
      apply propext
      constructor
      · intro hway
        obtain ⟨y, _, _, ⟨c, hc, hx, rfl⟩, ⟨v, ⟨hlen, hall⟩, hy, rfl⟩, rfl⟩ := hway
        exact ⟨c :: v, ⟨by simp [hlen], by simpa using ⟨hc, hall⟩⟩, hx.append hy, rfl⟩
      · intro hway
        obtain ⟨v, ⟨hlen, hall⟩, h, rfl⟩ := hway
        cases v with
        | nil => cases hlen
        | cons c v =>
            obtain ⟨y, hx, hy⟩ := Spot.Takes.split (s := [c]) h
            rw [List.forall_mem_cons] at hall
            exact ⟨y, [], [], ⟨c, hall.1, hx, rfl⟩, ⟨v, ⟨Nat.succ.inj hlen, hall.2⟩, hy, rfl⟩, rfl⟩

/-- Any number of characters of a set. -/
theorem many_char (s : CharSet) : (char s).many = takes fun v => ∀ c ∈ v, s.has c.toNat := by
  funext x y cs
  apply propext
  constructor
  · intro hway
    obtain ⟨n, h⟩ := hway
    rw [times_char] at h
    obtain ⟨v, ⟨-, hall⟩, h, rfl⟩ := h
    exact ⟨v, hall, h, rfl⟩
  · intro hway
    obtain ⟨v, hall, h, rfl⟩ := hway
    refine ⟨v.length, ?_⟩
    rw [times_char]
    exact ⟨v, ⟨rfl, hall⟩, h, rfl⟩

end Link

namespace Expr

/-- A loop over one character takes any run of characters of its set. -/
theorem way_loop (greedy narrow : Bool) (s : CharSet) :
    (rep 1 none greedy (.set narrow s)).way =
      Link.takes fun v => v ≠ [] ∧ ∀ c ∈ v, s.has c.toNat := by
  rw [way, way, Link.between_none, Link.times_char, Link.many_char, Link.takes_comp]
  refine Link.takes_congr fun v => ?_
  constructor
  · intro hrun
    obtain ⟨a, b, ⟨ha, hall⟩, hb, rfl⟩ := hrun
    cases a with
    | nil => cases ha
    | cons c a =>
        exact ⟨by simp, fun d hd => (List.mem_append.1 hd).elim (hall d) (hb d)⟩
  · intro hall
    obtain ⟨hne, hall⟩ := hall
    cases v with
    | nil => exact absurd rfl hne
    | cons c v =>
        rw [List.forall_mem_cons] at hall
        exact ⟨[c], v, ⟨rfl, by simpa using hall.1⟩, hall.2, rfl⟩

/-- A number of copies of one character takes runs of that length. -/
theorem way_copies (n : Nat) (greedy narrow : Bool) (s : CharSet) :
    (rep n (some n) greedy (.set narrow s)).way =
      Link.takes fun v => v.length = n ∧ ∀ c ∈ v, s.has c.toNat := by
  rw [way, way, Link.between_some, Nat.sub_self, Link.between_zero_zero, Link.comp_skip,
    Link.times_char]

end Expr

end Signpost.Regex
