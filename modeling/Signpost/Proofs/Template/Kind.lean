import Signpost.Template
import Signpost.Proofs.Regex.Group
import Signpost.Proofs.Regex.Linear
import Signpost.Proofs.Template.Segments

/-!
# What the kinds of placeholders accept

`Kind.Accepts` says which values a kind accepts, with no expression in between.  The expression of a kind
is an expression by itself (`Kind.standalone`), and its ways take the accepted values wherever they stand,
without capturing anything (`Kind.way_body`).  All this is about the kinds other than `raw`, whose
expression may be anything.
-/

namespace Signpost

open Regex

namespace Kind

/-! ## Accepted values -/

/-- A hexadecimal digit of either case. -/
def isHexDigit (c : Char) : Bool :=
  c.isDigit || (decide ('a' ≤ c) && decide (c ≤ 'f')) || (decide ('A' ≤ c) && decide (c ≤ 'F'))

/-- Some characters, at least one, all of which pass a test. -/
def Run (test : Char → Bool) (v : Text) : Prop := v ≠ [] ∧ ∀ c ∈ v, test c

/-- The values that a kind accepts.  A `raw` kind accepts what a way through its expression takes. -/
def Accepts : Kind → Text → Prop
  | int, v => Run Char.isDigit v
  | slug, v => Run (fun c => c.isAlphanum || c == '_' || c == '-') v
  | uuid, v => ∃ groups : List Text, groups.map List.length = [8, 4, 4, 4, 12] ∧
      (∀ g ∈ groups, ∀ c ∈ g, isHexDigit c) ∧ v = Text.join '-' groups
  | any, v => Run (· != '\n') v
  | hex, v => Run isHexDigit v
  | alpha, v => Run Char.isAlpha v
  | segment, v => Run (· != '/') v
  | raw expr, v => ∃ e x y cs, Expr.ofText? expr = some e ∧ e.way x y cs ∧ x.Takes v y

/-- Whether a kind has an expression of its own. -/
def isRaw : Kind → Bool
  | raw _ => true
  | _ => false

/-! ## Sets of characters -/

/-- The digits, letters, underscores and hyphens. -/
def slugSet : CharSet := [(0x2D, 0x2D), (0x30, 0x39), (0x41, 0x5A), (0x5F, 0x5F), (0x61, 0x7A)]

/-- The hexadecimal digits of both cases. -/
def hexSet : CharSet := [(0x30, 0x39), (0x41, 0x46), (0x61, 0x66)]

/-- The letters. -/
def alphaSet : CharSet := [(0x41, 0x5A), (0x61, 0x7A)]

/-- The letters of ASCII by their code points. -/
theorem isAlpha_iff (c : Char) : c.isAlpha = true ↔
    65 ≤ c.toNat ∧ c.toNat ≤ 90 ∨ 97 ≤ c.toNat ∧ c.toNat ≤ 122 := by
  have h : c.isAlpha = (decide ('A'.val ≤ c.val ∧ c.val ≤ 'Z'.val) ||
      decide ('a'.val ≤ c.val) && decide (c.val ≤ 'z'.val)) := rfl
  simp [h, UInt32.le_iff_toNat_le]

theorem has_asciiDigit (c : Char) : CharSet.asciiDigit.has c.toNat = c.isDigit := by
  rw [Bool.eq_iff_iff]
  simp [CharSet.asciiDigit, Unicode.Ranges.has, Char.isDigit, UInt32.le_iff_toNat_le, and_comm]

theorem has_slugSet (c : Char) :
    slugSet.has c.toNat = (c.isAlphanum || c == '_' || c == '-') := by
  rw [Bool.eq_iff_iff]
  simp [slugSet, Unicode.Ranges.has, Char.isAlphanum, isAlpha_iff, Char.isDigit, UInt32.le_iff_toNat_le,
    ← Char.toNat_inj]
  grind

theorem has_hexSet (c : Char) : hexSet.has c.toNat = isHexDigit c := by
  rw [Bool.eq_iff_iff]
  simp [hexSet, isHexDigit, Unicode.Ranges.has, Char.isDigit, UInt32.le_iff_toNat_le, Char.le_def]
  grind

theorem has_alphaSet (c : Char) : alphaSet.has c.toNat = c.isAlpha := by
  rw [Bool.eq_iff_iff]
  simp [alphaSet, Unicode.Ranges.has, isAlpha_iff]
  grind

theorem toNat_le_lastCodePoint (c : Char) : c.toNat ≤ Unicode.lastCodePoint := by
  have hval : c.toNat = c.val.toNat := rfl
  have hlast : Unicode.lastCodePoint = 0x10FFFF := rfl
  rcases c.valid with h | ⟨-, h⟩ <;> omega

theorem has_notSlash (c : Char) : (CharSet.others (.single '/')).has c.toNat = (c != '/') := by
  have hset : CharSet.others (.single '/') = [(0, 46), (48, Unicode.lastCodePoint)] := rfl
  have hlast := toNat_le_lastCodePoint c
  rw [hset, Bool.eq_iff_iff]
  simp [Unicode.Ranges.has, ← Char.toNat_inj]
  grind

theorem has_notNewline (c : Char) : (CharSet.others (.single '\n')).has c.toNat = (c != '\n') := by
  have hset : CharSet.others (.single '\n') = [(0, 9), (11, Unicode.lastCodePoint)] := rfl
  have hlast := toNat_le_lastCodePoint c
  rw [hset, Bool.eq_iff_iff]
  simp [Unicode.Ranges.has, ← Char.toNat_inj]
  grind

/-! ## Expressions -/

/-- The expression of a kind, if its text is one. -/
def body (k : Kind) : Expr := (Expr.ofText? k.fragment).getD .empty

/-- One character of a set or more. -/
def loop (s : CharSet) : Expr := .rep 1 none true (.set false s)

/-- A number of hexadecimal digits. -/
def hexCopies (n : Nat) : Expr := .rep n (some n) true (.set false hexSet)

/-- Numbers of hexadecimal digits with a hyphen between each two. -/
def hexRow : Nat → List Nat → List Expr
  | n, [] => [hexCopies n]
  | n, m :: ms => hexCopies n :: .literal ['-'] :: hexRow m ms

/-- The expression of a kind as it is read. -/
def shape : Kind → Expr
  | int => loop .asciiDigit
  | slug => loop slugSet
  | uuid => .seq (hexRow 8 [4, 4, 4, 12])
  | any => loop (.others (.single '\n'))
  | hex => loop hexSet
  | raw expr => (raw expr).body
  | alpha => loop alphaSet
  | segment => loop (.others (.single '/'))

variable {k : Kind}

theorem ofText?_fragment (hk : k.isRaw = false) : Expr.ofText? k.fragment = some k.shape := by
  cases k with
  | raw => cases hk
  | _ => rfl

theorem body_eq_shape (k : Kind) : k.body = k.shape := by
  cases k with
  | raw => rfl
  | _ => rfl

theorem standalone (hk : k.isRaw = false) : Expr.Standalone k.fragment := by
  refine .of_tokens? (by rw [ofText?_fragment hk]; rfl) k.fragment.length ?_
  cases k with
  | raw => cases hk
  | _ => rfl

theorem linear_hexRow : ∀ (n : Nat) (ns : List Nat), ∀ e ∈ hexRow n ns, e.Linear
  | n, [], e, he => by
      rw [List.mem_singleton.1 he]
      exact .copies
  | n, m :: ms, e, he => by
      rcases List.mem_cons.1 he with rfl | he
      · exact .copies
      · rcases List.mem_cons.1 he with rfl | he
        · exact .literal
        · exact linear_hexRow m ms e he

theorem linear_body (hk : k.isRaw = false) : k.body.Linear := by
  rw [body_eq_shape]
  cases k with
  | raw => cases hk
  | uuid => exact .seq (linear_hexRow 8 [4, 4, 4, 12])
  | _ => exact .loop

theorem way_shape_loop (s : CharSet) (test : Char → Bool) (h : ∀ c : Char, s.has c.toNat = test c) :
    (loop s).way = Link.takes (Run test) := by
  rw [loop, Expr.way_loop]
  simp only [h]
  rfl

theorem way_hexCopies (n : Nat) :
    (hexCopies n).way = Link.takes fun v => v.length = n ∧ ∀ c ∈ v, isHexDigit c := by
  rw [hexCopies, Expr.way_copies]
  simp only [has_hexSet]

theorem way_hexRow : ∀ (n : Nat) (ns : List Nat), Expr.waysInRow (hexRow n ns) =
    Link.takes fun v => ∃ groups : List Text, groups.map List.length = n :: ns ∧
      (∀ g ∈ groups, ∀ c ∈ g, isHexDigit c) ∧ v = Text.join '-' groups
  | n, [] => by
      rw [hexRow, Expr.waysInRow_singleton, way_hexCopies]
      refine Link.takes_congr fun v => ?_
      constructor
      · rintro ⟨hlen, hall⟩
        exact ⟨[v], by simp [hlen], by simpa using hall, (Text.join_singleton '-' v).symm⟩
      · rintro ⟨groups, hlen, hall, rfl⟩
        obtain ⟨g, rfl, hg⟩ := List.map_eq_singleton_iff.1 hlen
        rw [Text.join_singleton]
        exact ⟨hg, hall g List.mem_cons_self⟩
  | n, m :: ms => by
      rw [hexRow, Expr.waysInRow, Expr.waysInRow, way_hexCopies, way_hexRow m ms, Expr.way,
        Link.text_eq_takes, Link.takes_comp, Link.takes_comp]
      refine Link.takes_congr fun v => ?_
      constructor
      · rintro ⟨g, _, ⟨hlen, hall⟩, ⟨_, _, rfl, ⟨groups, hlens, halls, rfl⟩, rfl⟩, rfl⟩
        have hne : groups ≠ [] := by
          rintro rfl
          cases hlens
        refine ⟨g :: groups, by simp [hlen, hlens], by simpa using ⟨hall, halls⟩, ?_⟩
        rw [Text.join_cons _ _ hne]
        rfl
      · rintro ⟨groups, hlens, halls, rfl⟩
        obtain ⟨g, groups, rfl, hlen, hlens⟩ := List.map_eq_cons_iff.1 hlens
        have hne : groups ≠ [] := by
          rintro rfl
          cases hlens
        rw [List.forall_mem_cons] at halls
        exact ⟨g, '-' :: Text.join '-' groups, ⟨hlen, halls.1⟩,
          ⟨['-'], _, rfl, ⟨groups, hlens, halls.2, rfl⟩, rfl⟩, Text.join_cons _ _ hne⟩

/-- The ways through the expression of a kind take the values it accepts. -/
theorem way_body (hk : k.isRaw = false) : k.body.way = Link.takes k.Accepts := by
  rw [body_eq_shape]
  cases k with
  | raw => cases hk
  | int => exact way_shape_loop _ _ has_asciiDigit
  | slug => exact way_shape_loop _ _ has_slugSet
  | uuid =>
      rw [shape, Expr.way]
      exact way_hexRow 8 [4, 4, 4, 12]
  | any => exact way_shape_loop _ _ has_notNewline
  | hex => exact way_shape_loop _ _ has_hexSet
  | alpha => exact way_shape_loop _ _ has_alphaSet
  | segment => exact way_shape_loop _ _ has_notSlash

end Kind

end Signpost
