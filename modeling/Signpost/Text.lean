/-!
# Text

Text is a list of characters, so that a proof can take it apart and put it together with the lemmas
about lists.  Templates, paths, names, messages and documents are all text.  Lengths that a limit
speaks of count the bytes of the UTF-8 form (`Text.bytes`), never characters.

Splitting and joining are the library's `List.splitOn` and `List.intercalate`, which undo each other
(`List.intercalate_splitOn`).
-/

namespace Signpost

/-- A text, character by character. -/
abbrev Text := List Char

namespace Text

/-- The number of bytes of the UTF-8 form. -/
def bytes : Text → Nat
  | [] => 0
  | c :: rest => c.utf8Size + bytes rest

/-- The text without its start `p`, if it starts so. -/
def after? (p t : Text) : Option Text := p.isPrefixOf? t

/-- The text without its end `p`, if it ends so. -/
def before? (p t : Text) : Option Text := p.isSuffixOf? t

/-- The text without the characters `c` it ends with. -/
def trimEnd (c : Char) (t : Text) : Text := (t.reverse.dropWhile (· == c)).reverse

/-- The text without the characters `c` it starts with. -/
def trimStart (c : Char) (t : Text) : Text := t.dropWhile (· == c)

/-- The texts before and after the first `c`, if there is one. -/
def cut? (c : Char) : Text → Option (Text × Text)
  | [] => none
  | d :: rest =>
    if d == c then some ([], rest) else (cut? c rest).map fun (a, b) => (d :: a, b)

/-- Parts joined with a character between each two. -/
def join (c : Char) (parts : List Text) : Text := [c].intercalate parts

/-- Lower case for the letters `A` to `Z`; every other character stays. -/
def asciiLower (t : Text) : Text := t.map Char.toLower

/-- The decimal form of a number. -/
def ofNat (n : Nat) : Text := (Nat.toDigits 10 n)

/-- The word `true` or `false`. -/
def ofBool (b : Bool) : Text := if b then "true".toList else "false".toList

/-- Whether a text comes before another or is the same, by the code points of its characters.  The bytes of
the UTF-8 form give the same order. -/
def le : Text → Text → Bool
  | [], _ => true
  | _ :: _, [] => false
  | c :: s, d :: t => if c = d then le s t else decide (c.toNat < d.toNat)

theorem bytes_append (s t : Text) : bytes (s ++ t) = bytes s + bytes t := by
  induction s with
  | nil => simp [bytes]
  | cons c s ih => simp [bytes, ih, Nat.add_assoc]

theorem cut?_eq_some {c : Char} {t a b : Text} (h : cut? c t = some (a, b)) :
    t = a ++ c :: b := by
  induction t generalizing a with
  | nil => simp [cut?] at h
  | cons d rest ih =>
    by_cases hd : d = c
    · subst hd
      simp [cut?] at h
      simp [h]
    · simp [cut?, hd] at h
      obtain ⟨x, hx, rfl⟩ := h
      simp [ih hx]

end Text

end Signpost
