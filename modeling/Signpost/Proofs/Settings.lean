import Signpost.Settings

/-!
# Layers of settings

Settings are taken from several sources, each of which sets some of them.  What one source sets is a *layer*: for
every setting a value or none (`Setting.Layer`).  A layer is laid over settings one setting at a time, and every
setting then has the value of the layer, or keeps its own (`Settings.get_overlay`).  Two layers over one another
are one layer (`Settings.overlay_overlay`).

*Faults.*  A source sets its settings in an order, and the first fault ends it.  If a fault depends on the source
alone and not on what was set before, the faults can be looked for first (`foldlM_of_faults`).

*Limits.*  Settings are checked when they are complete: the first limit that is zero is refused
(`Settings.checked_eq_error_iff`).
-/

namespace Signpost

namespace Setting

/-- The values of a setting. -/
def Val : Setting → Type
  | switch _ => Bool
  | limit _ => Nat

/-- For every setting a value or none. -/
abbrev Layer := (x : Setting) → Option x.Val

theorem mem_all (x : Setting) : x ∈ all := by
  rcases x with (_ | _) | (_ | _ | _) <;> decide

theorem nodup_all : all.Nodup := by decide

end Setting

namespace Settings

open Setting (Layer)

/-- The value of a setting. -/
def get (s : Settings) : (x : Setting) → x.Val
  | .switch which => s.switch which
  | .limit which => s.limit which

/-- A setting replaced. -/
def put (s : Settings) : (x : Setting) → x.Val → Settings
  | .switch which, on => s.setSwitch on which
  | .limit which, n => s.setLimit n which

/-- A setting replaced, if there is a value for it. -/
def putIfAny (s : Settings) (x : Setting) (v : Option x.Val) : Settings := v.elim s (s.put x)

/-- Settings with a layer over them. -/
def overlay (s : Settings) (layer : Layer) : Settings := Setting.all.foldl (fun s x => s.putIfAny x (layer x)) s

/-- Settings, unless a limit is zero. -/
def checked (s : Settings) : Except SettingsError Settings := do
  s.validate
  .ok s

/-! ## One setting -/

theorem get_put (s : Settings) (x : Setting) (v : x.Val) : (s.put x v).get x = v := by
  rcases x with (_ | _) | (_ | _ | _) <;> rfl

theorem get_put_of_ne (s : Settings) {x y : Setting} (h : y ≠ x) (v : x.Val) : (s.put x v).get y = s.get y := by
  rcases x with (_ | _) | (_ | _ | _) <;> rcases y with (_ | _) | (_ | _ | _) <;>
    first | rfl | exact absurd rfl h

theorem get_putIfAny (s : Settings) (x : Setting) (v : Option x.Val) :
    (s.putIfAny x v).get x = v.getD (s.get x) := by
  cases v with
  | none => rfl
  | some v => exact s.get_put x v

theorem get_putIfAny_of_ne (s : Settings) {x y : Setting} (h : y ≠ x) (v : Option x.Val) :
    (s.putIfAny x v).get y = s.get y := by
  cases v with
  | none => rfl
  | some v => exact s.get_put_of_ne h v

/-- Settings are known by their values. -/
theorem ext_get {s t : Settings} (h : ∀ x, s.get x = t.get x) : s = t := by
  cases s
  cases t
  cases h (.switch .skipTrailingSlash)
  cases h (.switch .compileOnRegister)
  cases h (.limit .patternLength)
  cases h (.limit .pathSegments)
  cases h (.limit .regexSize)
  rfl

/-! ## Layers -/

theorem get_foldl_putIfAny (layer : Layer) (x : Setting) : ∀ (xs : List Setting) (s : Settings), xs.Nodup →
    (xs.foldl (fun s x => s.putIfAny x (layer x)) s).get x =
      if x ∈ xs then (layer x).getD (s.get x) else s.get x
  | [], s, _ => rfl
  | y :: xs, s, h => by
      obtain ⟨hy, hxs⟩ := List.nodup_cons.1 h
      rw [List.foldl_cons, get_foldl_putIfAny layer x xs _ hxs]
      by_cases hx : x = y
      · subst hx
        rw [if_neg hy, if_pos List.mem_cons_self, get_putIfAny]
      · simp only [get_putIfAny_of_ne s hx, List.mem_cons, hx, false_or]

/-- A setting has the value of the layer, or keeps its own. -/
theorem get_overlay (s : Settings) (layer : Layer) (x : Setting) :
    (s.overlay layer).get x = (layer x).getD (s.get x) := by
  rw [overlay, get_foldl_putIfAny layer x _ s Setting.nodup_all, if_pos x.mem_all]

/-- Two layers over one another are one. -/
theorem overlay_overlay (s : Settings) (lower upper : Layer) :
    (s.overlay lower).overlay upper = s.overlay fun x => (upper x).or (lower x) := by
  refine ext_get fun x => ?_
  rw [get_overlay, get_overlay, get_overlay]
  cases upper x <;> rfl

/-! ## Limits -/

theorem validate_eq_ok_iff {s : Settings} : s.validate = .ok () ↔ ∀ l, s.limit l ≠ 0 := by
  unfold validate
  constructor
  · intro h l hzero
    split at h
    · cases h
    · next hnone =>
        have hl := List.find?_eq_none.1 hnone l (by cases l <;> decide)
        simp [hzero] at hl
  · intro h
    split
    · next l hl => exact absurd (by simpa using List.find?_some hl) (h l)
    · rfl

theorem checked_eq_ok_iff {s t : Settings} : s.checked = .ok t ↔ t = s ∧ ∀ l, s.limit l ≠ 0 := by
  rw [← validate_eq_ok_iff, checked]
  cases s.validate with
  | ok _ =>
      constructor
      · intro h
        cases h
        exact ⟨rfl, rfl⟩
      · rintro ⟨rfl, -⟩
        rfl
  | error e =>
      constructor
      · intro h
        cases h
      · rintro ⟨-, h⟩
        cases h

/-- Settings are refused for the first limit that is zero. -/
theorem checked_eq_error_iff {s : Settings} {e : SettingsError} : s.checked = .error e ↔
    ∃ before l after, [Limit.patternLength, .pathSegments, .regexSize] = before ++ l :: after ∧
      e = .zeroLimit l ∧ s.limit l = 0 ∧ ∀ l' ∈ before, s.limit l' ≠ 0 := by
  unfold checked validate
  constructor
  · intro h
    split at h
    · next l hl =>
        cases h
        obtain ⟨hzero, before, after, hall, hbefore⟩ := List.find?_eq_some_iff_append.1 hl
        exact ⟨before, l, after, hall, rfl, by simpa using hzero, by simpa using hbefore⟩
    · cases h
  · rintro ⟨before, l, after, hall, rfl, hzero, hbefore⟩
    have hl : [Limit.patternLength, .pathSegments, .regexSize].find? (s.limit · == 0) = some l :=
      List.find?_eq_some_iff_append.2 ⟨by simpa using hzero, before, after, hall, by simpa using hbefore⟩
    rw [hl]
    rfl

end Settings

/-! ## Faults -/

/-- Steps that fail by their items alone: the first item with a fault ends them, whatever the state is. -/
theorem foldlM_of_faults {ε σ α : Type} {step : σ → α → Except ε σ} {fault? : α → Option ε} {next : σ → α → σ}
    (hstep : ∀ s a, step s a = (fault? a).elim (.ok (next s a)) .error) : ∀ (as : List α) (s : σ),
    as.foldlM step s = (as.findSome? fault?).elim (.ok (as.foldl next s)) .error
  | [], s => rfl
  | a :: as, s => by
      rw [List.foldlM_cons, hstep, List.findSome?_cons]
      cases fault? a with
      | some e => rfl
      | none => exact foldlM_of_faults hstep as (next s a)

end Signpost
