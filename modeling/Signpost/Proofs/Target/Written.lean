import Signpost.Proofs.Target.Path

/-!
# URIs written out

The URI of a target that starts with a slash is written as the encoded target without its fragment
(`Uri.toText_of_slash`).  Nothing in that text has to be encoded, and cutting off a fragment where there is none
changes nothing.  So as a target the text is read as the same URI (`Uri.ofTarget_toText`).
-/

namespace Signpost.Uri

open Percent

/-- The path before a query does not depend on the query. -/
theorem beforeQuery_append_asking {path : Text} (hquery : '?' ∉ path) (hfragment : '#' ∉ path)
    (query : Option Text) : beforeQuery (path ++ asking query) = path := by
  have hpath : ∀ c ∈ path, (!endsPath c) = true := by
    intro c hc
    rw [Bool.not_eq_true', Bool.eq_false_iff, ne_eq, endsPath_iff]
    rintro (rfl | rfl)
    · exact hquery hc
    · exact hfragment hc
  rw [beforeQuery, List.takeWhile_append_of_pos hpath]
  cases query with
  | none => exact List.append_nil path
  | some query => exact List.append_nil path

/-- The fragment has no part in the path and the query. -/
theorem splitQuery_takeWhile (t : Text) : splitQuery (t.takeWhile (· != '#')) = splitQuery t := by
  have hself : (t.takeWhile (· != '#')).takeWhile (· != '#') = t.takeWhile (· != '#') :=
    List.takeWhile_eq_self_iff.2 fun _ => List.mem_takeWhile_imp
  rw [splitQuery, hself]
  rfl

theorem bytes_takeWhile_le (p : Char → Bool) (t : Text) : Text.bytes (t.takeWhile p) ≤ Text.bytes t := by
  conv_rhs => rw [← List.takeWhile_append_dropWhile (p := p) (l := t), Text.bytes_append]
  exact Nat.le_add_right _ _

variable {t : Text} {uri : Uri}

/-- What starts with a slash is written as it was read, without its fragment. -/
theorem toText_of_ofText_slash (h : ofText ('/' :: t) = .ok uri) :
    uri.toText = ('/' :: t).takeWhile (· != '#') := by
  obtain ⟨-, parts, hread, rfl⟩ := ofText_slash_eq_ok_iff.1 h
  obtain ⟨rfl, -⟩ := readPath_eq_ok_iff.1 hread
  exact splitQuery_append ('/' :: t)

theorem ofText_toText (h : ofText ('/' :: t) = .ok uri) : ofText uri.toText = .ok uri := by
  have hwritten := toText_of_ofText_slash h
  have hstart : ('/' :: t).takeWhile (· != '#') = '/' :: t.takeWhile (· != '#') :=
    List.takeWhile_cons_of_pos (by decide)
  obtain ⟨hlen, parts, hread, huri⟩ := ofText_slash_eq_ok_iff.1 h
  have hshorter := bytes_takeWhile_le (· != '#') ('/' :: t)
  rw [hwritten, hstart, ofText_slash_eq_ok_iff, ← hstart]
  exact ⟨Nat.le_trans hshorter hlen, parts, by rw [readPath, splitQuery_takeWhile]; exact hread, huri⟩

/-- The URI of a target that starts with a slash is written as the encoded target without its fragment. -/
theorem toText_of_slash (h : ofTarget ('/' :: t) = .ok uri) :
    uri.toText = (encode ('/' :: t)).takeWhile (· != '#') := by
  rw [ofTarget_eq_ok, encode_kept (by decide)] at h
  rw [encode_kept (by decide)]
  exact toText_of_ofText_slash h

/-- Written out and taken for a target, it is read as the same URI. -/
theorem ofTarget_toText (h : ofTarget ('/' :: t) = .ok uri) : ofTarget uri.toText = .ok uri := by
  have hencoded : encode uri.toText = uri.toText := by
    rw [toText_of_slash h]
    exact encode_eq_self fun c hc => mustEncode_of_mem_encode ((List.takeWhile_sublist _).subset hc)
  rw [ofTarget_eq_ok, encode_kept (by decide)] at h
  rw [ofTarget_eq_ok, hencoded]
  exact ofText_toText h

end Signpost.Uri
