import Mathlib.Data.List.Nodup
import Signpost.Toml.Read

/-!
# Tables of documents

In every table that is read no key comes twice, and every whole number has 64 bits (`Entries.Sound`).  So a table
is a map: a key has the value of its entry (`Entries.Distinct.get?_eq_some_iff`).

*Putting in.*  However an entry comes into a table, by a header or by a key with dots, it is put there by
`Entries.set`, which keeps a table sound (`Entries.Sound.set`).  A path of keys leads to a table, or to the last
one of an array, and what is sound there stays so all the way up (`Entries.Keeps.changeAt`).

*Reading.*  Numbers are held against their type when their word is read.  A document is sound after every line
(`Document.Sound.addLine`), and therefore at its end (`Entries.sound_of_ofText`).
-/

namespace Signpost.Toml

/-- Whole numbers have 64 bits, and no key of a table comes twice, however deep in a value. -/
inductive Value.Sound : Value → Prop where
  | text (t : Text) : Sound (.text t)
  | integer {n : Int} : -0x8000000000000000 ≤ n → n < 0x8000000000000000 → Sound (.integer n)
  | real (x : Binary64) : Sound (.real x)
  | overflow : Sound .overflow
  | boolean (b : Bool) : Sound (.boolean b)
  | datetime (t : Text) : Sound (.datetime t)
  | array {growing : Bool} {elements : List Value} : (∀ v ∈ elements, Sound v) →
      Sound (.array growing elements)
  | table {origin : Origin} {entries : List (Text × Value)} : (entries.map Prod.fst).Nodup →
      (∀ e ∈ entries, Sound e.2) → Sound (.table origin entries)

/-- No key comes twice. -/
def Entries.Distinct (es : Entries) : Prop := (es.map Prod.fst).Nodup

/-- No key comes twice, here or deeper, and whole numbers have 64 bits. -/
structure Entries.Sound (es : Entries) : Prop where
  /-- No key comes twice. -/
  distinct : es.Distinct
  /-- The values are sound. -/
  values : ∀ e ∈ es, e.2.Sound

theorem Value.Sound.entries {origin : Origin} {es : Entries} (h : (Value.table origin es).Sound) :
    es.Sound := by
  cases h with
  | table hdistinct hvalues => exact ⟨hdistinct, hvalues⟩

theorem Value.Sound.elements {growing : Bool} {vs : List Value} (h : (Value.array growing vs).Sound) :
    ∀ v ∈ vs, v.Sound := by
  cases h with
  | array hvalues => exact hvalues

namespace Entries

variable {es sub : Entries} {key : Text} {v : Value}

/-! ## A table as a map -/

theorem mem_of_get? (h : es.get? key = some v) : (key, v) ∈ es := by
  obtain ⟨before, after, hes, -⟩ := List.lookup_eq_some_iff.1 h
  rw [hes]
  exact List.mem_append_right _ List.mem_cons_self

/-- A key has the value of its entry. -/
theorem Distinct.get?_eq_some_iff (h : es.Distinct) : es.get? key = some v ↔ (key, v) ∈ es := by
  refine ⟨mem_of_get?, fun hmem => ?_⟩
  cases hget : es.get? key with
  | none =>
      have hne := List.lookup_eq_none_iff.1 hget _ hmem
      simp at hne
  | some w =>
      have heq := List.inj_on_of_nodup_map h (mem_of_get? hget) hmem rfl
      rw [(Prod.mk.inj heq).2]

theorem get?_eq_none_iff : es.get? key = none ↔ key ∉ es.map Prod.fst := by
  rw [get?, List.lookup_eq_none_iff, List.mem_map]
  constructor
  · rintro h ⟨e, he, rfl⟩
    simpa using h e he
  · intro h e he
    exact bne_iff_ne.2 fun heq => h ⟨e, he, heq.symm⟩

theorem Sound.get? (h : es.Sound) (hget : es.get? key = some v) : v.Sound := h.values _ (mem_of_get? hget)

theorem Sound.table (h : es.Sound) (origin : Origin) : (Value.table origin es).Sound :=
  .table h.distinct h.values

theorem sound_nil : Sound [] := ⟨List.nodup_nil, by simp⟩

/-! ## Putting in -/

theorem mem_keys_set {k : Text} : ∀ {es : Entries}, k ∈ (es.set key v).map Prod.fst →
    k = key ∨ k ∈ es.map Prod.fst
  | [], h => .inl (by simpa [set] using h)
  | (k', w) :: es, h => by
      rw [set] at h
      split at h
      · rcases List.mem_cons.1 h with rfl | h
        · exact .inl rfl
        · exact .inr (List.mem_cons_of_mem _ h)
      · rcases List.mem_cons.1 h with rfl | h
        · exact .inr List.mem_cons_self
        · exact (mem_keys_set h).imp_right (List.mem_cons_of_mem _)

theorem distinct_set : ∀ {es : Entries}, es.Distinct → (es.set key v).Distinct
  | [], _ => by simp [Distinct, set]
  | (k, w) :: es, h => by
      obtain ⟨hfirst, hrest⟩ := List.nodup_cons.1 h
      rw [set]
      split
      · next hk => exact List.nodup_cons.2 ⟨hk ▸ hfirst, hrest⟩
      · next hk => exact List.nodup_cons.2 ⟨fun hmem => (mem_keys_set hmem).elim hk hfirst, distinct_set hrest⟩

theorem mem_set {e : Text × Value} : ∀ {es : Entries}, e ∈ es.set key v → e = (key, v) ∨ e ∈ es
  | [], h => .inl (List.mem_singleton.1 h)
  | (k, w) :: es, h => by
      rw [set] at h
      split at h
      · exact (List.mem_cons.1 h).imp_right (List.mem_cons_of_mem _)
      · rcases List.mem_cons.1 h with rfl | h
        · exact .inr List.mem_cons_self
        · exact (mem_set h).imp_right (List.mem_cons_of_mem _)

/-- A sound value put into a sound table leaves it sound. -/
theorem Sound.set (h : es.Sound) (hv : v.Sound) (key : Text) : (es.set key v).Sound where
  distinct := distinct_set h.distinct
  values e he := by
    rcases mem_set he with rfl | he
    · exact hv
    · exact h.values e he

/-- A change of tables that leaves sound ones sound. -/
def Keeps (f : Entries → Option Entries) : Prop := ∀ es es', es.Sound → f es = some es' → es'.Sound

theorem Keeps.changeLast {f : Entries → Option Entries} (hf : Keeps f) {vs vs' : List Value}
    (hvs : ∀ v ∈ vs, v.Sound) (h : Entries.changeLast f vs = some vs') : ∀ v ∈ vs', v.Sound := by
  fun_induction Entries.changeLast f vs generalizing vs' with
  | case1 => cases h
  | case2 origin es =>
      obtain ⟨es', hes', rfl⟩ := Option.map_eq_some_iff.1 h
      have hes := (hvs _ List.mem_cons_self).entries
      simpa using (hf es es' hes hes').table origin
  | case3 => cases h
  | case4 v rest _ _ ih =>
      obtain ⟨rest', hrest', rfl⟩ := Option.map_eq_some_iff.1 h
      obtain ⟨hv, hrest⟩ := List.forall_mem_cons.1 hvs
      exact List.forall_mem_cons.2 ⟨hv, ih hrest hrest'⟩

/-- A table under a key, changed. -/
theorem Keeps.changeTable {f : Entries → Option Entries} (hf : Keeps f) {es' : Entries} {origin : Origin}
    (hes : es.Sound) (hsub : sub.Sound)
    (h : (f sub).map (fun sub => es.set key (.table origin sub)) = some es') : es'.Sound := by
  obtain ⟨sub', hsub', rfl⟩ := Option.map_eq_some_iff.1 h
  exact hes.set ((hf sub sub' hsub hsub').table origin) key

/-- The last table of an array under a key, changed. -/
theorem Keeps.changeElement {f : Entries → Option Entries} (hf : Keeps f) {es' : Entries} {vs : List Value}
    (hes : es.Sound) (hvs : ∀ v ∈ vs, v.Sound)
    (h : (Entries.changeLast f vs).map (fun vs => es.set key (.array true vs)) = some es') : es'.Sound := by
  obtain ⟨vs', hvs', rfl⟩ := Option.map_eq_some_iff.1 h
  exact hes.set (.array (hf.changeLast hvs hvs')) key

/-- A change where a path of keys leads leaves the whole sound. -/
theorem Keeps.changeAt {f : Entries → Option Entries} (hf : Keeps f) : ∀ path, Keeps (Entries.changeAt f path)
  | [], es, es', hes, h => hf es es' hes h
  | key :: path, es, es', hes, h => by
      have ih := hf.changeAt path
      rw [Entries.changeAt] at h
      split at h
      · exact ih.changeTable hes sound_nil h
      · cases h
      · next hget => exact ih.changeTable hes (hes.get? hget).entries h
      · next hget => exact ih.changeElement hes (hes.get? hget).elements h
      · cases h

theorem keeps_openTable (key : Text) : Keeps (openTable key) := by
  intro es es' hes h
  unfold openTable at h
  split at h
  · cases h
    exact hes.set (sound_nil.table _) key
  · next hget =>
      cases h
      exact hes.set ((hes.get? hget).entries.table _) key
  · cases h

theorem keeps_addElement (key : Text) (hsub : sub.Sound) : Keeps (addElement key sub) := by
  intro es es' hes h
  have hnew : (Value.table .header sub).Sound := hsub.table _
  unfold addElement at h
  dsimp only at h
  split at h
  · cases h
    exact hes.set (.array (by simpa using hnew)) key
  · next hget =>
      cases h
      refine hes.set (.array fun v hv => ?_) key
      rcases List.mem_append.1 hv with hv | hv
      · exact (hes.get? hget).elements v hv
      · exact List.mem_singleton.1 hv ▸ hnew
  · cases h

/-- A sound value added under a key with dots leaves a table sound. -/
theorem keeps_addKey (hv : v.Sound) : ∀ (path : List Text) (first dotted : Bool),
    Keeps (addKey v first dotted path)
  | [], _, _, es, es', _, h => by cases h
  | [key], first, dotted, es, es', hes, h => by
      rw [addKey] at h
      split at h
      · split at h
        · cases h
          exact hes.set hv key
        · cases h
      · cases h
  | key :: key' :: path, first, dotted, es, es', hes, h => by
      have ih := keeps_addKey hv (key' :: path)
      rw [addKey] at h
      · split at h
        · exact (ih _ _).changeTable hes sound_nil h
        · next hget => exact (ih _ _).changeTable hes (hes.get? hget).entries h
        · next hget => exact (ih _ _).changeTable hes (hes.get? hget).entries h
        · next hget => exact (ih _ _).changeElement hes (hes.get? hget).elements h
        · cases h
      · simp

end Entries

/-! ## Reading -/

theorem number?_sound {word : Text} {v : Value} (h : number? word = some v) : v.Sound := by
  unfold number? at h
  split at h
  · cases h
    exact .overflow
  · split at h
    · dsimp only at h
      split at h
      · next hrange =>
          cases h
          exact .integer hrange.1 hrange.2
      · cases h
        exact .overflow
    · unfold real? at h
      dsimp only at h
      split at h
      · cases h
        exact .real _
      · split at h
        · cases h
          exact .real _
        · obtain ⟨m, -, rfl⟩ := Option.map_eq_some_iff.1 h
          split
          · exact .real _
          · exact .overflow

theorem scalar?_sound {word : Text} {v : Value} (h : scalar? word = some v) : v.Sound := by
  unfold scalar? at h
  split at h
  · obtain ⟨t, -, rfl⟩ := Option.map_eq_some_iff.1 h
    exact .text t
  · obtain ⟨t, -, rfl⟩ := Option.map_eq_some_iff.1 h
    exact .text t
  · split at h
    · cases h
      exact .boolean true
    · split at h
      · cases h
        exact .boolean false
      · split at h
        · cases h
          exact .datetime _
        · exact number?_sound h

theorem eq_some_of_orMalformed {α : Type} {x : Option α} {a : α} (h : orMalformed x = .ok a) : x = some a := by
  cases x with
  | none => cases h
  | some _ =>
      cases h
      rfl

/-- A chain of steps that succeeds has a first step that does. -/
theorem exists_of_bind_ok {ε α β : Type} {x : Except ε α} {f : α → Except ε β} {b : β}
    (h : x >>= f = .ok b) : ∃ a, x = .ok a ∧ f a = .ok b := by
  cases x with
  | error e => cases h
  | ok a => exact ⟨a, rfl, h⟩

mutual

theorem Written.sound_of_read : ∀ {w : Written} {v : Value}, w.read = .ok v → v.Sound
  | .word word, v, h => by
      rw [Written.read] at h
      exact scalar?_sound (eq_some_of_orMalformed h)
  | .array elements, v, h => by
      rw [Written.read] at h
      obtain ⟨vs, hvs, hv⟩ := exists_of_bind_ok h
      cases hv
      exact .array (sound_of_readElements hvs)
  | .braces pairs, v, h => by
      rw [Written.read] at h
      obtain ⟨es, hes, hv⟩ := exists_of_bind_ok h
      cases hv
      exact (sound_of_readPairs Entries.sound_nil hes).table _

theorem sound_of_readElements : ∀ {ws : List Written} {vs : List Value}, readElements ws = .ok vs →
    ∀ v ∈ vs, v.Sound
  | [], vs, h => by
      rw [readElements] at h
      cases h
      simp
  | w :: ws, vs, h => by
      rw [readElements] at h
      obtain ⟨v, hv, h⟩ := exists_of_bind_ok h
      obtain ⟨rest, hrest, h⟩ := exists_of_bind_ok h
      cases h
      exact List.forall_mem_cons.2 ⟨Written.sound_of_read hv, sound_of_readElements hrest⟩

theorem sound_of_readPairs : ∀ {pairs : List (List Text × Written)} {es es' : Entries}, es.Sound →
    readPairs es pairs = .ok es' → es'.Sound
  | [], es, es', hes, h => by
      rw [readPairs] at h
      cases h
      exact hes
  | (parts, w) :: pairs, es, es', hes, h => by
      rw [readPairs] at h
      obtain ⟨key, -, h⟩ := exists_of_bind_ok h
      obtain ⟨v, hv, h⟩ := exists_of_bind_ok h
      obtain ⟨es₁, hes₁, h⟩ := exists_of_bind_ok h
      exact sound_of_readPairs
        (Entries.keeps_addKey (Written.sound_of_read hv) key true false _ _ hes (eq_some_of_orMalformed hes₁)) h

end

namespace Document

/-- The tables of a document being read are sound. -/
structure Sound (d : Document) : Prop where
  /-- What was read. -/
  entries : d.entries.Sound
  /-- What is being read and will be put into an array. -/
  element : ∀ path table, d.place = .element path table → table.Sound

theorem sound_of_putAt {put : Text → Entries → Option Entries} (hput : ∀ key, Entries.Keeps (put key))
    {path : List Text} {es es' : Entries} (hes : es.Sound) (h : putAt put path es = .ok es') : es'.Sound := by
  obtain ⟨key, -, hchange⟩ := Option.bind_eq_some_iff.1 (eq_some_of_orMalformed h)
  exact (hput key).changeAt _ _ _ hes hchange

variable {d d' : Document}

theorem Sound.close {es : Entries} (hd : d.Sound) (h : d.close = .ok es) : es.Sound := by
  unfold Document.close at h
  split at h
  · cases h
    exact hd.entries
  · next hplace => exact sound_of_putAt (Entries.keeps_addElement · (hd.element _ _ hplace)) hd.entries h

/-- A document that is sound is so after one line more. -/
theorem Sound.addLine {l : Line} (hd : d.Sound) (h : d.addLine l = .ok d') : d'.Sound := by
  cases l with
  | table parts =>
      rw [Document.addLine] at h
      obtain ⟨es, hes, h⟩ := exists_of_bind_ok h
      obtain ⟨path, -, h⟩ := exists_of_bind_ok h
      obtain ⟨es', hes', h⟩ := exists_of_bind_ok h
      cases h
      exact ⟨sound_of_putAt Entries.keeps_openTable (hd.close hes) hes', fun _ _ hplace => by cases hplace⟩
  | element parts =>
      rw [Document.addLine] at h
      obtain ⟨es, hes, h⟩ := exists_of_bind_ok h
      obtain ⟨path, -, h⟩ := exists_of_bind_ok h
      cases h
      refine ⟨hd.close hes, fun _ _ hplace => ?_⟩
      cases hplace
      exact Entries.sound_nil
  | pair parts w =>
      rw [Document.addLine] at h
      obtain ⟨key, -, h⟩ := exists_of_bind_ok h
      obtain ⟨v, hv, h⟩ := exists_of_bind_ok h
      have hadd : Entries.Keeps (Entries.add key v) :=
        Entries.keeps_addKey (Written.sound_of_read hv) key true false
      cases hplace : d.place with
      | table path =>
          rw [hplace] at h
          obtain ⟨es, hes, h⟩ := exists_of_bind_ok h
          cases h
          exact ⟨hadd.changeAt path _ _ hd.entries (eq_some_of_orMalformed hes), fun _ _ hother => by cases hother⟩
      | element path table =>
          rw [hplace] at h
          obtain ⟨es, hes, h⟩ := exists_of_bind_ok h
          cases h
          refine ⟨hd.entries, fun _ _ hother => ?_⟩
          cases hother
          exact hadd _ _ (hd.element _ _ hplace) (eq_some_of_orMalformed hes)

theorem Sound.addLines : ∀ {lines : List Line} {d d' : Document}, d.Sound →
    lines.foldlM Document.addLine d = .ok d' → d'.Sound
  | [], d, d', hd, h => by
      cases h
      exact hd
  | l :: lines, d, d', hd, h => by
      rw [List.foldlM_cons] at h
      obtain ⟨d₁, hd₁, h⟩ := exists_of_bind_ok h
      exact (hd.addLine hd₁).addLines h

end Document

/-- The entries of a document are sound. -/
theorem Entries.sound_of_ofText {t : Text} {es : Entries} (h : ofText t = .ok es) : es.Sound := by
  unfold ofText at h
  obtain ⟨lines, -, h⟩ := exists_of_bind_ok h
  obtain ⟨d, hd, h⟩ := exists_of_bind_ok h
  obtain ⟨closed, hclosed, h⟩ := exists_of_bind_ok h
  have hstart : Document.Sound {} := ⟨sound_nil, fun _ _ hplace => by cases hplace⟩
  split at h
  · cases h
    exact (hstart.addLines hd).close hclosed
  · cases h

end Signpost.Toml
