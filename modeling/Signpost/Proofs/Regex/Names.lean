import Signpost.Proofs.Regex.Meaning

/-!
# Names in an expression

`Expr.names` lists the names under which an expression captures.  A way through the expression captures
under these names only (`Expr.way_within`), and building an expression in normal form gives no name that
its pieces do not have (`Kept.concat`, `Kept.choose`, `names_repeated`).

*Kept properties.*  What holds of the pieces holds of a sequence or a choice built of them, if it holds of
literals and sets and if it holds of a row exactly when it holds of its parts.  So the argument that normal
form changes nothing is made once, for all such properties (`Kept`).

*Outermost groups.*  `Expr.outerGroups` lists the groups that are in no other, in the order they open.  Normal
form of a sequence neither drops nor moves one (`Expr.outerGroups_concat`).
-/

namespace Signpost.Regex

namespace Expr

/-! ## Properties that normal form keeps -/

/-- A property of sequences that is one of their parts. -/
structure Kept (Q : Expr → Prop) : Prop where
  /-- The empty expression has it. -/
  empty : Q .empty
  /-- Literals have it. -/
  literal (t : Text) : Q (.literal t)
  /-- A sequence has it if its parts do. -/
  seq (es : List Expr) : Q (.seq es) ↔ ∀ e ∈ es, Q e

namespace Kept

variable {Q : Expr → Prop} {es : List Expr}

theorem parts (hQ : Kept Q) {e : Expr} (he : Q e) : ∀ f ∈ e.parts, Q f := by
  have hone : ∀ f ∈ [e], Q f := by simpa using he
  cases e with
  | empty => exact fun f hf => by cases hf
  | seq es => exact (hQ.seq es).1 he
  | _ => exact hone

theorem joinLiterals (hQ : Kept Q) (hes : ∀ e ∈ es, Q e) : ∀ f ∈ joinLiterals es, Q f := by
  induction es with
  | nil => exact fun f hf => by cases hf
  | cons e es ih =>
      have ih := ih fun f hf => hes f (List.mem_cons_of_mem _ hf)
      unfold Expr.joinLiterals
      split
      · next h => cases h
      · next t rest h =>
          cases h
          split
          · next u rest' hjoin =>
              intro f hf
              rcases List.mem_cons.1 hf with rfl | hf
              · exact hQ.literal _
              · exact ih f (hjoin ▸ List.mem_cons_of_mem _ hf)
          · intro f hf
            rcases List.mem_cons.1 hf with rfl | hf
            · exact hQ.literal _
            · exact ih f hf
      · next e' rest _ h =>
          cases h
          intro f hf
          rcases List.mem_cons.1 hf with rfl | hf
          · exact hes _ List.mem_cons_self
          · exact ih f hf

theorem concat (hQ : Kept Q) (hes : ∀ e ∈ es, Q e) : Q (concat es) := by
  have hparts : ∀ f ∈ es.flatMap Expr.parts, Q f := by
    intro f hf
    obtain ⟨e, he, hf⟩ := List.mem_flatMap.1 hf
    exact hQ.parts (hes e he) f hf
  have hjoined := hQ.joinLiterals hparts
  unfold Expr.concat
  split
  · exact hQ.empty
  · next e hone => exact hjoined e (hone ▸ List.mem_cons_self)
  · exact (hQ.seq _).2 hjoined

theorem ofSet (hQ : Kept Q) (hset : ∀ narrow s, Q (.set narrow s)) (narrow : Bool) (s : CharSet) :
    Q (ofSet narrow s) := by
  unfold Expr.ofSet
  split
  · exact hset _ _
  · split
    · exact hQ.literal _
    · exact hset _ _
  · exact hset _ _

theorem ofBranches (hQ : Kept Q) (hset : ∀ narrow s, Q (.set narrow s))
    (hchoice : ∀ es, Q (.choice es) ↔ ∀ e ∈ es, Q e) (hes : ∀ e ∈ es, Q e) :
    Q (ofBranches es) := by
  unfold Expr.ofBranches
  split
  · next e => exact hes e List.mem_cons_self
  · split
    · exact hQ.ofSet hset _ _
    · exact hQ.ofSet hset _ _
    · exact (hchoice es).2 hes

theorem branches (hchoice : ∀ es, Q (.choice es) ↔ ∀ e ∈ es, Q e) (hes : ∀ e ∈ es, Q e) :
    ∀ f ∈ es.flatMap Expr.branches, Q f := by
  intro f hf
  obtain ⟨e, he, hf⟩ := List.mem_flatMap.1 hf
  have hone : ∀ f ∈ [e], Q f := by simpa using hes e he
  cases e with
  | choice fs => exact (hchoice fs).1 (hes _ he) f hf
  | _ => exact hone f hf

/-- The rows of some sequences. -/
theorem mapM_seq? {rows : List (List Expr)} (h : es.mapM seq? = some rows) :
    ∀ row ∈ rows, .seq row ∈ es := by
  induction es generalizing rows with
  | nil =>
      cases h
      exact fun row hrow => by cases hrow
  | cons e es ih =>
      rw [List.mapM_cons] at h
      obtain ⟨row, hrow, h⟩ := Option.bind_eq_some_iff.1 h
      obtain ⟨rest, hrest, h⟩ := Option.bind_eq_some_iff.1 h
      cases h
      intro r hr
      rcases List.mem_cons.1 hr with rfl | hr
      · cases e with
        | seq fs =>
            cases hrow
            exact List.mem_cons_self
        | _ => cases hrow
      · exact List.mem_cons_of_mem _ (ih hrest r hr)

theorem choose (hQ : Kept Q) (hset : ∀ narrow s, Q (.set narrow s))
    (hchoice : ∀ es, Q (.choice es) ↔ ∀ e ∈ es, Q e) (hes : ∀ e ∈ es, Q e) : Q (choose es) := by
  have hall := hQ.ofBranches hset hchoice (branches hchoice hes)
  unfold Expr.choose
  split
  · next fs heq =>
      rw [heq] at hall
      have hfs := (hchoice fs).1 hall
      split
      · next first others hrows =>
          have hrow : ∀ row ∈ first :: others, ∀ e ∈ row, Q e := fun row hr =>
            (hQ.seq row).1 (hfs _ (mapM_seq? hrows row hr))
          dsimp only
          split
          · exact hall
          · refine hQ.concat fun e he => ?_
            rcases List.mem_append.1 he with he | he
            · exact hrow first List.mem_cons_self e (List.mem_of_mem_take he)
            · rw [List.mem_singleton.1 he]
              refine hQ.ofBranches hset hchoice (branches hchoice fun f hf => ?_)
              obtain ⟨row, hr, rfl⟩ := List.mem_map.1 hf
              exact hQ.concat fun g hg => hrow row hr g (List.mem_of_mem_drop hg)
      · exact hall
  · exact hall

end Kept

/-! ## Names -/

mutual

/-- The names under which an expression captures. -/
def names : Expr → List Text
  | empty | literal _ | set _ _ | anchor _ => []
  | group none e => e.names
  | group (some name) e => name :: e.names
  | seq es => namesOfRow es
  | choice es => namesOfRow es
  | rep _ _ _ e => e.names

/-- The names under which some expressions capture. -/
def namesOfRow : List Expr → List Text
  | [] => []
  | e :: es => e.names ++ namesOfRow es

end

theorem namesOfRow_subset {es : List Expr} {given : List Text} :
    namesOfRow es ⊆ given ↔ ∀ e ∈ es, e.names ⊆ given := by
  induction es with
  | nil => simp [namesOfRow]
  | cons e es ih => simp [namesOfRow, ih]

theorem names_kept (given : List Text) : Kept (·.names ⊆ given) where
  empty := by simp [names]
  literal _ := by simp [names]
  seq es := by rw [names, namesOfRow_subset]

theorem names_set (given : List Text) (narrow : Bool) (s : CharSet) :
    (set narrow s).names ⊆ given := by simp [names]

theorem names_choice (given : List Text) (es : List Expr) :
    (choice es).names ⊆ given ↔ ∀ e ∈ es, e.names ⊆ given := by rw [names, namesOfRow_subset]

theorem names_repeated {e : Expr} {given : List Text} (he : e.names ⊆ given) (min : Nat)
    (max : Option Nat) (greedy : Bool) : (repeated min max greedy e).names ⊆ given := by
  unfold repeated
  generalize (if e.emptyOnly then (Nat.min min 1, some ((max.map (Nat.min · 1)).getD 1))
    else (min, max)) = bounds
  obtain ⟨min, max⟩ := bounds
  dsimp only
  split
  · simp [names]
  · split
    · exact he
    · rwa [names]

mutual

/-- A way through an expression captures under its names only. -/
theorem way_within : ∀ e : Expr, Link.Within e.names e.way
  | empty => by rw [way]; exact .skip
  | literal t => by
      rw [way]
      rintro x y cs ⟨-, rfl⟩ c hc
      cases hc
  | set _ s => by
      rw [way]
      rintro x y cs ⟨-, -, -, rfl⟩ c hc
      cases hc
  | anchor a => by
      rw [way]
      rintro x y cs ⟨-, -, rfl⟩ c hc
      cases hc
  | group none e => by
      rw [way, names]
      exact way_within e
  | group (some name) e => by
      rw [way, names]
      rintro x y cs ⟨ds, h, rfl⟩ c hc
      rcases List.mem_cons.1 hc with rfl | hc
      · exact List.mem_cons_self
      · exact List.mem_cons_of_mem _ (way_within e h c hc)
  | seq es => by
      rw [way, names]
      exact waysInRow_within es
  | choice es => by
      rw [way, names]
      exact waysToChoose_within es
  | rep min max _ e => by
      rw [way, names]
      exact (way_within e).between min max

theorem waysInRow_within : ∀ es : List Expr, Link.Within (namesOfRow es) (waysInRow es)
  | [] => by rw [waysInRow]; exact .skip
  | e :: es => by
      rw [waysInRow, namesOfRow]
      exact ((way_within e).mono (List.subset_append_left _ _)).comp
        ((waysInRow_within es).mono (List.subset_append_right _ _))

theorem waysToChoose_within : ∀ es : List Expr, Link.Within (namesOfRow es) (waysToChoose es)
  | [] => by rw [waysToChoose]; exact fun _ _ _ h => h.elim
  | e :: es => by
      rw [waysToChoose, namesOfRow]
      rintro x y cs (h | h)
      · exact (way_within e).mono (List.subset_append_left _ _) h
      · exact (waysToChoose_within es).mono (List.subset_append_right _ _) h

end

/-! ## Outermost groups -/

mutual

/-- The groups that are in no other group, in the order they open: the name and the body of each. -/
def outerGroups : Expr → List (Option Text × Expr)
  | empty | literal _ | set _ _ | anchor _ => []
  | group name e => [(name, e)]
  | seq es => outerGroupsOfRow es
  | choice es => outerGroupsOfRow es
  | rep _ _ _ e => e.outerGroups

/-- The groups in a row of expressions that are in no other group. -/
def outerGroupsOfRow : List Expr → List (Option Text × Expr)
  | [] => []
  | e :: es => e.outerGroups ++ outerGroupsOfRow es

end

theorem outerGroupsOfRow_append (es fs : List Expr) :
    outerGroupsOfRow (es ++ fs) = outerGroupsOfRow es ++ outerGroupsOfRow fs := by
  induction es with
  | nil => rfl
  | cons e es ih => rw [List.cons_append, outerGroupsOfRow, outerGroupsOfRow, ih, List.append_assoc]

theorem outerGroupsOfRow_singleton (e : Expr) : outerGroupsOfRow [e] = e.outerGroups := List.append_nil _

theorem outerGroupsOfRow_parts (e : Expr) : outerGroupsOfRow e.parts = e.outerGroups := by
  cases e with
  | empty => rfl
  | seq es => rw [parts, outerGroups]
  | _ => exact outerGroupsOfRow_singleton _

theorem outerGroupsOfRow_flatMap_parts (es : List Expr) :
    outerGroupsOfRow (es.flatMap parts) = outerGroupsOfRow es := by
  induction es with
  | nil => rfl
  | cons e es ih =>
      rw [List.flatMap_cons, outerGroupsOfRow_append, outerGroupsOfRow_parts, ih, outerGroupsOfRow]

/-- Literals have no groups, so joining them loses none. -/
theorem outerGroupsOfRow_joinLiterals (es : List Expr) :
    outerGroupsOfRow (joinLiterals es) = outerGroupsOfRow es := by
  induction es with
  | nil => rfl
  | cons e es ih =>
      unfold joinLiterals
      split
      · next h => cases h
      · next t rest h =>
          cases h
          rw [outerGroupsOfRow, ← ih]
          split
          · next u rest' hjoin => rw [hjoin]; rfl
          · rfl
      · next e' rest _ h =>
          cases h
          rw [outerGroupsOfRow, outerGroupsOfRow, ih]

/-- A sequence has the outermost groups of its parts. -/
theorem outerGroups_concat (es : List Expr) : (concat es).outerGroups = outerGroupsOfRow es := by
  have h : outerGroupsOfRow (joinLiterals (es.flatMap parts)) = outerGroupsOfRow es := by
    rw [outerGroupsOfRow_joinLiterals, outerGroupsOfRow_flatMap_parts]
  rw [← h]
  unfold concat
  split
  · next hnil => rw [hnil]; rfl
  · next e hone => rw [hone, outerGroupsOfRow_singleton]
  · rw [outerGroups]

end Expr

end Signpost.Regex
