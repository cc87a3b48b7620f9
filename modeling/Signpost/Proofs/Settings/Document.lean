import Mathlib.Data.List.Nodup
import Signpost.Proofs.Settings
import Signpost.Proofs.Toml.Table
import Signpost.Settings.Document

/-!
# Settings in documents

*Order.*  The entries of a section are visited in the order of their keys.  This order is total, and no key comes
twice, so tables that answer alike are visited alike (`Entries.sorted_congr`).

*The layer of a section.*  An entry has a fault if no setting has its key or its value is not one of the setting.
If no entry has a fault, the section is a layer over the defaults, and the result is checked
(`Settings.ofSection_eq`).

*Documents.*  A value that a setting takes is a truth value or a number from 1 to 2^63 - 1 (`Setting.Denotes`): no
document holds a greater one, and the check refuses zero.  So there are settings exactly if every entry of the
section is a setting with such a value (`Settings.Describes`, `Settings.describes`).
-/

namespace Signpost

open Toml (Value Entries)

/-! ## The order of the keys -/

namespace Text

theorem le_total : ∀ s t : Text, (le s t || le t s) = true
  | [], _ => rfl
  | _ :: _, [] => rfl
  | c :: s, d :: t => by
      by_cases h : c = d
      · subst h
        simpa [le] using le_total s t
      · have hne : c.toNat ≠ d.toNat := fun heq => h (Char.toNat_inj.1 heq)
        simp only [le, h, Ne.symm h, if_false, Bool.or_eq_true, decide_eq_true_eq]
        omega

theorem le_trans : ∀ {s t u : Text}, le s t = true → le t u = true → le s u = true
  | [], _, _, _, _ => rfl
  | _ :: _, [], _, h, _ => by cases h
  | _ :: _, _ :: _, [], _, h => by cases h
  | c :: s, d :: t, e :: u, hst, htu => by
      unfold le at hst htu ⊢
      split at hst
      · next hcd =>
          subst hcd
          split at htu
          · next hce => rw [if_pos hce]; exact le_trans hst htu
          · next hce => rw [if_neg hce]; exact htu
      · split at htu
        · next hcd hde =>
            subst hde
            rw [if_neg hcd]
            exact hst
        · simp only [decide_eq_true_eq] at hst htu
          rw [if_neg fun hce => by subst hce; omega]
          exact decide_eq_true (Nat.lt_trans hst htu)

theorem le_antisymm : ∀ {s t : Text}, le s t = true → le t s = true → s = t
  | [], [], _, _ => rfl
  | [], _ :: _, _, h => by cases h
  | _ :: _, [], h, _ => by cases h
  | c :: s, d :: t, hst, hts => by
      by_cases h : c = d
      · subst h
        simp only [le, if_true] at hst hts
        rw [le_antisymm hst hts]
      · simp only [le, h, Ne.symm h, if_false, decide_eq_true_eq] at hst hts
        omega

end Text

namespace Toml.Entries

variable {es es' : Entries}

/-- The entries in the order of their keys. -/
def sorted (es : Entries) : Entries := es.mergeSort fun a b => Text.le a.1 b.1

theorem sorted_perm (es : Entries) : es.sorted.Perm es := List.mergeSort_perm es _

theorem pairwise_sorted (es : Entries) : es.sorted.Pairwise fun a b => Text.le a.1 b.1 = true :=
  @List.pairwise_mergeSort _ (fun a b => Text.le a.1 b.1) (fun _ _ _ => Text.le_trans)
    (fun a b => Text.le_total a.1 b.1) es

theorem distinct_sorted (h : es.Distinct) : es.sorted.Distinct :=
  ((sorted_perm es).map Prod.fst).nodup_iff.2 h

theorem get?_sorted (h : es.Distinct) (key : Text) : es.sorted.get? key = es.get? key := by
  refine Option.ext fun v => ?_
  rw [(distinct_sorted h).get?_eq_some_iff, h.get?_eq_some_iff]
  exact (sorted_perm es).mem_iff

/-- Tables that answer alike are visited alike. -/
theorem sorted_congr (h : es.Distinct) (h' : es'.Distinct) (heq : ∀ key, es.get? key = es'.get? key) :
    es.sorted = es'.sorted := by
  have hmem : ∀ e, e ∈ es ↔ e ∈ es' := fun e => by
    rw [← h.get?_eq_some_iff, ← h'.get?_eq_some_iff, heq]
  have hperm : es.sorted.Perm es'.sorted :=
    (sorted_perm es).trans
      (((List.perm_ext_iff_of_nodup h.of_map h'.of_map).2 hmem).trans (sorted_perm es').symm)
  refine hperm.eq_of_pairwise (fun a b ha hb hab hba => ?_) (pairwise_sorted es) (pairwise_sorted es')
  exact List.inj_on_of_nodup_map h ((sorted_perm es).mem_iff.1 ha)
    ((hmem b).2 ((sorted_perm es').mem_iff.1 hb)) (Text.le_antisymm hab hba)

/-- What is visited before an entry has a key that comes before. -/
theorem le_eq_false_of_sorted (h : es.Distinct) {before after : Entries} {e e' : Text × Value}
    (hsorted : es.sorted = before ++ e :: after) (he' : e' ∈ before) : Text.le e.1 e'.1 = false := by
  have hpair := pairwise_sorted es
  have hdistinct := distinct_sorted h
  rw [hsorted] at hpair hdistinct
  have hle : Text.le e'.1 e.1 = true := (List.pairwise_append.1 hpair).2.2 e' he' e List.mem_cons_self
  rw [Distinct, List.map_append, List.map_cons] at hdistinct
  have hne : e'.1 ≠ e.1 :=
    (List.nodup_append.1 hdistinct).2.2 e'.1 (List.mem_map_of_mem he') e.1 List.mem_cons_self
  exact Bool.eq_false_iff.2 fun hge => hne (Text.le_antisymm hle hge)

end Toml.Entries

/-! ## Entries -/

namespace Setting

theorem name_injective : ∀ {x y : Setting}, x.name = y.name → x = y := by
  have hall : ∀ x ∈ all, ∀ y ∈ all, x.name = y.name → x = y := by decide
  exact fun {x y} => hall x x.mem_all y y.mem_all

theorem ofName?_eq_some_iff {key : Text} {x : Setting} : ofName? key = some x ↔ x.name = key := by
  constructor
  · intro h
    simpa using List.find?_some h
  · rintro rfl
    cases h : ofName? x.name with
    | none =>
        have hne := List.find?_eq_none.1 h x x.mem_all
        simp at hne
    | some y =>
        have hname : y.name = x.name := by simpa using List.find?_some h
        rw [name_injective hname]

theorem ofName?_eq_none_iff {key : Text} : ofName? key = none ↔ ∀ x : Setting, x.name ≠ key := by
  rw [Option.eq_none_iff_forall_ne_some]
  simp only [ne_eq, ofName?_eq_some_iff]

/-- The value of a setting that a value of a document is read as. -/
def ofValue? : (x : Setting) → Value → Option x.Val
  | switch _, .boolean on => some on
  | limit _, .integer n => if 0 ≤ n then some n.toNat else none
  | _, _ => none

/-- What is wrong with a value that is read as none. -/
def unfit : Setting → Value → EntryFault
  | limit l, .integer n => .outOfRange (.limit l) (Settings.found (.integer n))
  | x, v => .wrongType x (Settings.found v)

/-- What a section sets. -/
def fromEntries (es : Entries) : Layer := fun x => (es.get? x.name).bind x.ofValue?

end Setting

namespace Settings

open Setting (Layer fromEntries)

/-- The fault of an entry. -/
def entryFault? (e : Text × Value) : Option SettingsError :=
  match Setting.ofName? e.1 with
  | none => some (.badEntry (.unknownKey e.1))
  | some x => if (x.ofValue? e.2).isSome then none else some (.badEntry (x.unfit e.2))

/-- An entry without a fault taken over. -/
def takeOver (s : Settings) (e : Text × Value) : Settings :=
  (Setting.ofName? e.1).elim s fun x => s.putIfAny x (x.ofValue? e.2)

theorem setEntry_eq (s : Settings) (e : Text × Value) :
    s.setEntry e.1 e.2 = (entryFault? e).elim (.ok (s.takeOver e)) .error := by
  unfold setEntry entryFault? takeOver
  cases Setting.ofName? e.1 with
  | none => rfl
  | some x =>
      cases x with
      | switch which => cases e.2 <;> rfl
      | limit which =>
          cases e.2 with
          | integer n =>
              simp only [Option.elim_some, Setting.ofValue?]
              split <;> rfl
          | _ => rfl

theorem get_takeOver_of_ne (s : Settings) {e : Text × Value} {x : Setting} (h : e.1 ≠ x.name) :
    (s.takeOver e).get x = s.get x := by
  unfold takeOver
  cases hname : Setting.ofName? e.1 with
  | none => rfl
  | some y =>
      refine s.get_putIfAny_of_ne (fun heq => h ?_) _
      rw [heq, Setting.ofName?_eq_some_iff.1 hname]

theorem get_takeOver (s : Settings) (x : Setting) (v : Value) :
    (s.takeOver (x.name, v)).get x = (x.ofValue? v).getD (s.get x) := by
  rw [takeOver, Setting.ofName?_eq_some_iff.2 rfl]
  exact s.get_putIfAny x _

theorem get_foldl_takeOver (x : Setting) : ∀ (es : Entries) (s : Settings), es.Distinct →
    (es.foldl takeOver s).get x = (fromEntries es x).getD (s.get x)
  | [], _, _ => rfl
  | e :: es, s, h => by
      obtain ⟨hfirst, hrest⟩ := List.nodup_cons.1 h
      rw [List.foldl_cons, get_foldl_takeOver x es _ hrest, fromEntries, fromEntries]
      by_cases hx : e.1 = x.name
      · obtain ⟨key, v⟩ := e
        obtain rfl : key = x.name := hx
        have hself : (x.name == x.name) = true := beq_self_eq_true _
        rw [Entries.get?_eq_none_iff.2 hfirst, get_takeOver, Entries.get?, List.lookup_cons, hself]
        rfl
      · have hne : (x.name == e.1) = false := by simpa using Ne.symm hx
        rw [get_takeOver_of_ne s hx, Entries.get?, Entries.get?, List.lookup_cons, hne]

theorem ofSection_eq_bind (es : Entries) : ofSection es =
    es.sorted.foldlM (fun s e => s.setEntry e.1 e.2) {} >>= checked := rfl

/-- The first fault in the order of the keys, or the defaults under the layer of the section, checked. -/
theorem ofSection_eq {es : Entries} (h : es.Distinct) : ofSection es =
    (es.sorted.findSome? entryFault?).elim (({} : Settings).overlay (fromEntries es)).checked .error := by
  have hoverlay : es.sorted.foldl takeOver {} = ({} : Settings).overlay (fromEntries es) := by
    refine ext_get fun x => ?_
    rw [get_foldl_takeOver x _ _ (Entries.distinct_sorted h), get_overlay, fromEntries, fromEntries,
      Entries.get?_sorted h]
  have hfold : es.sorted.foldlM (fun s e => s.setEntry e.1 e.2) ({} : Settings) =
      (es.sorted.findSome? entryFault?).elim (.ok (es.sorted.foldl takeOver {})) .error :=
    foldlM_of_faults setEntry_eq es.sorted {}
  rw [ofSection_eq_bind, hfold, hoverlay]
  cases es.sorted.findSome? entryFault? <;> rfl

theorem validate_of_ofSection {es : Entries} {s : Settings} (h : ofSection es = .ok s) : s.validate = .ok () := by
  rw [ofSection_eq_bind] at h
  obtain ⟨t, -, ht⟩ := Toml.exists_of_bind_ok h
  obtain ⟨rfl, hlimits⟩ := checked_eq_ok_iff.1 ht
  exact validate_eq_ok_iff.2 hlimits

end Settings

/-! ## Values -/

namespace Setting

/-- A value of a document denotes a value of a setting: a truth value denotes itself, and so does a number from 1
to 2^63 - 1. -/
def Denotes : (x : Setting) → Value → x.Val → Prop
  | switch _, v, (on : Bool) => v = .boolean on
  | limit _, v, (n : Nat) => v = .integer n ∧ 1 ≤ n ∧ n ≤ 0x7FFFFFFFFFFFFFFF

/-- A value of a setting that the check lets pass. -/
def Passes : (x : Setting) → x.Val → Prop
  | switch _, _ => True
  | limit _, (n : Nat) => n ≠ 0

variable {x : Setting} {v : Value} {w : x.Val}

theorem Denotes.read (h : x.Denotes v w) : x.ofValue? v = some w := by
  cases x with
  | switch which =>
      obtain rfl : v = .boolean w := h
      rfl
  | limit which =>
      revert w
      rintro (n : Nat) ⟨rfl, -, -⟩
      rw [ofValue?, if_pos (Int.natCast_nonneg n)]
      rfl

theorem Denotes.passes (h : x.Denotes v w) : x.Passes w := by
  cases x with
  | switch which => trivial
  | limit which => exact Nat.one_le_iff_ne_zero.1 h.2.1

/-- A document holds no number above 2^63 - 1. -/
theorem denotes_of_passes (hv : v.Sound) (hread : x.ofValue? v = some w) (hpass : x.Passes w) :
    x.Denotes v w := by
  cases x with
  | switch which =>
      cases v with
      | boolean on =>
          cases hread
          rfl
      | _ => cases hread
  | limit which =>
      revert w
      intro (n : Nat) hread (hpass : n ≠ 0)
      cases hv with
      | @integer m hlow hhigh =>
          rw [ofValue?] at hread
          split at hread
          · have hm : m.toNat = n := Option.some.inj hread
            exact ⟨congrArg Value.integer (by omega), by omega, by omega⟩
          · cases hread
      | _ => cases hread

theorem name_ne_sectionName (x : Setting) : x.name ≠ Settings.sectionName := by
  rcases x with (_ | _) | (_ | _ | _) <;> decide

end Setting

namespace Settings

open Setting (fromEntries)

variable {es sec : Entries} {s : Settings}

theorem validate_eq_ok_iff_passes : s.validate = .ok () ↔ ∀ x : Setting, x.Passes (s.get x) := by
  rw [validate_eq_ok_iff]
  refine ⟨fun h x => ?_, fun h l => h (.limit l)⟩
  cases x with
  | switch which => trivial
  | limit which => exact h which

theorem entryFault?_name (x : Setting) (v : Value) : entryFault? (x.name, v) =
    if (x.ofValue? v).isSome then none else some (.badEntry (x.unfit v)) := by
  rw [entryFault?, Setting.ofName?_eq_some_iff.2 rfl]

theorem entryFault?_of_unknown {key : Text} (h : ∀ x : Setting, x.name ≠ key) (v : Value) :
    entryFault? (key, v) = some (.badEntry (.unknownKey key)) := by
  rw [entryFault?, Setting.ofName?_eq_none_iff.2 h]

theorem entryFault?_eq_none_iff {key : Text} {v : Value} : entryFault? (key, v) = none ↔
    ∃ x : Setting, x.name = key ∧ ∃ w, x.ofValue? v = some w := by
  constructor
  · intro h
    by_cases hkey : ∃ x : Setting, x.name = key
    · obtain ⟨x, rfl⟩ := hkey
      rw [entryFault?_name] at h
      split at h
      · next hsome => exact ⟨x, rfl, Option.isSome_iff_exists.1 hsome⟩
      · cases h
    · rw [entryFault?_of_unknown (not_exists.1 hkey)] at h
      cases h
  · rintro ⟨x, rfl, hread⟩
    rw [entryFault?_name, if_pos (Option.isSome_iff_exists.2 hread)]

/-! ## Sections -/

/-- Every entry of a section is a setting with a value of this setting. -/
def WellFormed (sec : Entries) : Prop :=
  ∀ key v, sec.get? key = some v → ∃ x : Setting, x.name = key ∧ ∃ w, x.Denotes v w

/-- Settings as a section sets them. -/
structure Sets (sec : Entries) (s : Settings) : Prop where
  /-- Every entry is a setting and denotes its value. -/
  present : ∀ key v, sec.get? key = some v → ∃ x : Setting, x.name = key ∧ x.Denotes v (s.get x)
  /-- A setting without an entry has its default. -/
  absent : ∀ x : Setting, sec.get? x.name = none → s.get x = ({} : Settings).get x

theorem get_overlay_fromEntries {x : Setting} {v : Value} {w : x.Val} (hget : sec.get? x.name = some v)
    (hv : x.ofValue? v = some w) : (s.overlay (fromEntries sec)).get x = w := by
  rw [get_overlay, fromEntries, hget, Option.bind_some, hv]
  rfl

theorem sets_iff : Sets sec s ↔ WellFormed sec ∧ s = ({} : Settings).overlay (fromEntries sec) := by
  constructor
  · rintro ⟨hpresent, habsent⟩
    refine ⟨fun key v hget => ?_, ext_get fun x => ?_⟩
    · obtain ⟨x, hx, hv⟩ := hpresent key v hget
      exact ⟨x, hx, _, hv⟩
    · cases hget : sec.get? x.name with
      | none =>
          rw [habsent x hget, get_overlay, fromEntries, hget]
          rfl
      | some v =>
          obtain ⟨y, hy, hv⟩ := hpresent _ v hget
          cases Setting.name_injective hy
          exact (get_overlay_fromEntries hget hv.read).symm
  · rintro ⟨hsec, rfl⟩
    refine ⟨fun key v hget => ?_, fun x hget => ?_⟩
    · obtain ⟨x, rfl, w, hv⟩ := hsec key v hget
      rw [← get_overlay_fromEntries hget hv.read] at hv
      exact ⟨x, rfl, hv⟩
    · rw [get_overlay, fromEntries, hget]
      rfl

/-- What a section sets passes the check. -/
theorem Sets.passes (hs : Sets sec s) (x : Setting) : x.Passes (s.get x) := by
  cases hget : sec.get? x.name with
  | none =>
      rw [hs.absent x hget]
      rcases x with (_ | _) | (_ | _ | _) <;> simp [Setting.Passes, get, limit]
  | some v =>
      obtain ⟨y, hy, hv⟩ := hs.present _ v hget
      cases Setting.name_injective hy
      exact hv.passes

theorem findSome?_entryFault?_eq_none_iff (h : sec.Distinct) : sec.sorted.findSome? entryFault? = none ↔
    ∀ key v, sec.get? key = some v → ∃ x : Setting, x.name = key ∧ ∃ w, x.ofValue? v = some w := by
  simp only [List.findSome?_eq_none_iff, (Entries.sorted_perm sec).mem_iff, Prod.forall,
    entryFault?_eq_none_iff, h.get?_eq_some_iff]

theorem ofSection_eq_ok_iff (h : sec.Sound) : ofSection sec = .ok s ↔ Sets sec s := by
  rw [ofSection_eq h.distinct]
  constructor
  · intro hresult
    cases hfault : sec.sorted.findSome? entryFault? with
    | some e =>
        rw [hfault] at hresult
        cases hresult
    | none =>
        rw [hfault, Option.elim_none, checked_eq_ok_iff, ← validate_eq_ok_iff, validate_eq_ok_iff_passes] at hresult
        obtain ⟨rfl, hpasses⟩ := hresult
        refine sets_iff.2 ⟨fun key v hget => ?_, rfl⟩
        obtain ⟨x, rfl, w, hw⟩ := (findSome?_entryFault?_eq_none_iff h.distinct).1 hfault key v hget
        have hpass := hpasses x
        rw [get_overlay_fromEntries hget hw] at hpass
        exact ⟨x, rfl, w, Setting.denotes_of_passes (h.get? hget) hw hpass⟩
  · intro hs
    have hpasses := hs.passes
    obtain ⟨hsec, rfl⟩ := sets_iff.1 hs
    have hfault := (findSome?_entryFault?_eq_none_iff h.distinct).2 fun key v hget => by
      obtain ⟨x, hx, w, hv⟩ := hsec key v hget
      exact ⟨x, hx, w, hv.read⟩
    rw [hfault, Option.elim_none, checked_eq_ok_iff, ← validate_eq_ok_iff, validate_eq_ok_iff_passes]
    exact ⟨rfl, hpasses⟩

/-- Sections that answer alike give the same result, errors included. -/
theorem ofSection_congr {sec' : Entries} (h : sec.Distinct) (h' : sec'.Distinct)
    (heq : ∀ key, sec.get? key = sec'.get? key) : ofSection sec = ofSection sec' := by
  have hlayer : fromEntries sec = fromEntries sec' := funext fun x => by rw [fromEntries, fromEntries, heq]
  rw [ofSection_eq h, ofSection_eq h', Entries.sorted_congr h h' heq, hlayer]

/-- A key that names no setting is reported, if every entry with a key before it is well formed. -/
theorem ofSection_of_unknownKey (h : sec.Distinct) {key : Text} {v : Value} (hget : sec.get? key = some v)
    (hkey : ∀ x : Setting, x.name ≠ key)
    (hbefore : ∀ key' v', sec.get? key' = some v' → Text.le key key' = false →
      ∃ x : Setting, x.name = key' ∧ ∃ w, x.Denotes v' w) :
    ofSection sec = .error (.badEntry (.unknownKey key)) := by
  have hmem : (key, v) ∈ sec.sorted := (Entries.sorted_perm sec).mem_iff.2 (h.get?_eq_some_iff.1 hget)
  obtain ⟨before, after, hsorted⟩ := List.append_of_mem hmem
  have hnone : ∀ e ∈ before, entryFault? e = none := by
    rintro ⟨key', v'⟩ he
    have hget' : sec.get? key' = some v' := by
      rw [h.get?_eq_some_iff, ← (Entries.sorted_perm sec).mem_iff, hsorted]
      exact List.mem_append_left _ he
    obtain ⟨x, hx, w, hv⟩ := hbefore key' v' hget' (Entries.le_eq_false_of_sorted h hsorted he)
    exact entryFault?_eq_none_iff.2 ⟨x, hx, w, hv.read⟩
  rw [ofSection_eq h, hsorted, List.findSome?_append, List.findSome?_eq_none_iff.2 hnone,
    Option.none_or, List.findSome?_cons, entryFault?_of_unknown hkey]
  rfl

/-! ## Documents -/

/-- The entries of which settings are read: those of the table that has the name of the section, or all if there is
no such key. -/
inductive SectionOf (es : Entries) : Entries → Prop where
  /-- There is a table with the name of the section. -/
  | table {origin : Toml.Origin} {sec : Entries} : es.get? sectionName = some (.table origin sec) →
      SectionOf es sec
  /-- The name of the section is no key. -/
  | whole : es.get? sectionName = none → SectionOf es es

theorem SectionOf.sound (hsec : SectionOf es sec) (h : es.Sound) : sec.Sound := by
  cases hsec with
  | table hget => exact (h.get? hget).entries
  | whole _ => exact h

theorem SectionOf.ofEntries_eq (hsec : SectionOf es sec) : ofEntries es = ofSection sec := by
  cases hsec with
  | table hget => rw [ofEntries, hget]
  | whole hget => rw [ofEntries, hget]

/-- The result for a document with the entries `es`. -/
structure Describes (es : Entries) (result : Except SettingsError Settings) : Prop where
  /-- A value under the name of the section that is no table is refused. -/
  refused : ∀ v, es.get? sectionName = some v → (∀ origin sec, v ≠ .table origin sec) →
    result = .error (.notTable v.typeName)
  /-- There are settings exactly if the section is well formed. -/
  accepted : ∀ sec, SectionOf es sec → ((∃ s, result = .ok s) ↔ WellFormed sec)
  /-- These are as the section sets them. -/
  sets : ∀ sec, SectionOf es sec → ∀ s, result = .ok s ↔ Sets sec s
  /-- A key that names no setting is reported, if every entry with a key before it is well formed. -/
  unknown : ∀ sec, SectionOf es sec → ∀ key v, sec.get? key = some v → (∀ x : Setting, x.name ≠ key) →
    (∀ key' v', sec.get? key' = some v' → Text.le key key' = false →
      ∃ x : Setting, x.name = key' ∧ ∃ w, x.Denotes v' w) →
    result = .error (.badEntry (.unknownKey key))
  /-- The name of the section is such a key. -/
  nested : ∀ x : Setting, x.name ≠ sectionName
  /-- A document with a section that answers alike has the same result, wherever its section stands and whatever
  stands outside. -/
  alike : ∀ sec, SectionOf es sec → ∀ t' es' sec', Entries.ofText t' = .ok es' → SectionOf es' sec' →
    (∀ key, sec'.get? key = sec.get? key) → ofDocument t' = result
  /-- Settings pass the check. -/
  valid : ∀ s, result = .ok s → s.validate = .ok ()

theorem ofDocument_eq {t : Text} (h : Entries.ofText t = .ok es) : ofDocument t = ofEntries es := by
  rw [ofDocument, h]

theorem exists_of_ofDocument {t : Text} (h : ofDocument t = .ok s) : ∃ es, Entries.ofText t = .ok es := by
  unfold ofDocument at h
  split at h
  · next hes => exact ⟨_, hes⟩
  · cases h
  · cases h

/-- For every document that can be read. -/
theorem describes {t : Text} (h : Entries.ofText t = .ok es) : Describes es (ofDocument t) where
  refused v hget hv := by
    rw [ofDocument_eq h, ofEntries, hget]
    cases v with
    | table origin sec => exact absurd rfl (hv origin sec)
    | _ => rfl
  accepted sec hsec := by
    have hsound := hsec.sound (Entries.sound_of_ofText h)
    rw [ofDocument_eq h, hsec.ofEntries_eq]
    simp only [ofSection_eq_ok_iff hsound, sets_iff, exists_and_left, exists_eq, and_true]
  sets sec hsec s := by
    rw [ofDocument_eq h, hsec.ofEntries_eq]
    exact ofSection_eq_ok_iff (hsec.sound (Entries.sound_of_ofText h))
  unknown sec hsec key v hget hkey hbefore := by
    rw [ofDocument_eq h, hsec.ofEntries_eq]
    exact ofSection_of_unknownKey (hsec.sound (Entries.sound_of_ofText h)).distinct hget hkey hbefore
  nested := Setting.name_ne_sectionName
  alike sec hsec t' es' sec' h' hsec' heq := by
    rw [ofDocument_eq h, ofDocument_eq h', hsec.ofEntries_eq, hsec'.ofEntries_eq]
    exact ofSection_congr (hsec'.sound (Entries.sound_of_ofText h')).distinct
      (hsec.sound (Entries.sound_of_ofText h)).distinct heq
  valid s hs := by
    rw [ofDocument_eq h] at hs
    unfold ofEntries at hs
    split at hs
    · exact validate_of_ofSection hs
    · cases hs
    · exact validate_of_ofSection hs

/-- A key outside the section does not count. -/
theorem describes_of_outside : ∃ es,
    Entries.ofText "[app]\nname = 1\n[router]\nmax_path_segments = 8\n".toList = .ok es ∧
      Describes es (.ok { maxPathSegments := 8 }) := by
  have hresult : ofDocument "[app]\nname = 1\n[router]\nmax_path_segments = 8\n".toList =
      .ok { maxPathSegments := 8 } := by
    decide +kernel
  obtain ⟨es, h⟩ := exists_of_ofDocument hresult
  have hdescribes := describes h
  rw [hresult] at hdescribes
  exact ⟨es, h, hdescribes⟩

/-- Without a section it does. -/
example : ofDocument "[app]\nname = 1\n".toList = .error (.badEntry (.unknownKey "app".toList)) := by
  decide +kernel

end Settings

end Signpost
