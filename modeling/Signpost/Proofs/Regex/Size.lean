import Mathlib.Algebra.Order.BigOperators.Group.List
import Mathlib.Algebra.Order.Group.Nat
import Mathlib.Data.List.Perm.Subperm
import Signpost.Regex.Compile

/-!
# Bounds on sizes

The states that rows of bytes share are counted once, so a set has no larger a size than its states have when
each is counted as often as rows lead to it (`setBytes_le`).
-/

namespace Signpost.Regex

/-- A size and that of a state with ways out for the rows that continue from it. -/
def addState (size : Nat) (rows : List ByteRow) : Nat :=
  size + stateBytes + (byFirst rows).length * rangeBytes

/-- The size of a set is at most that of its states, each counted as often as rows lead to it. -/
theorem setBytes_le {runs : CharSet} (h : ¬runs.all (·.2 < 128)) :
    setBytes false runs ≤ (continuations 4 (rowsOf runs)).foldl addState stateBytes := by
  have hsum : ∀ (states : List (List ByteRow)) (size : Nat),
      states.foldl addState size = size + (states.map (addState 0)).sum := by
    intro states
    induction states with
    | nil => exact fun _ => rfl
    | cons rows states ih =>
        intro size
        rw [List.foldl_cons, ih, List.map_cons, List.sum_cons, addState, addState]
        omega
  let shared := Std.HashSet.ofList (continuations 4 (rowsOf runs))
  have hset : setBytes false runs = shared.toList.foldl addState stateBytes := by
    rw [setBytes, if_neg h]
    exact Std.HashSet.fold_eq_foldl_toList
  have hdistinct : shared.toList.Nodup :=
    Std.HashSet.distinct_toList.imp fun h heq => by simp [heq] at h
  have hsub : shared.toList ⊆ continuations 4 (rowsOf runs) := by
    intro rows hrows
    rw [Std.HashSet.mem_toList, Std.HashSet.mem_ofList] at hrows
    simpa using hrows
  obtain ⟨states, hperm, hsublist⟩ := hdistinct.subperm hsub
  rw [hset, hsum, hsum, ← (hperm.map (addState 0)).sum_eq]
  exact Nat.add_le_add_left ((hsublist.map (addState 0)).sum_le_sum fun _ _ => Nat.zero_le _) _

end Signpost.Regex
