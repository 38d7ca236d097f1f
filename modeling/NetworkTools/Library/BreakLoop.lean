/-
This file develops loops that append one entry for each index and break on a test.
-/

import Mathlib.Tactic.Common

namespace NetworkTools.Library

/-- The loop appends the entry of each index and breaks behind the first one that stops it. -/
def breakLoop {Entry : Type} (entry : Nat → Entry) (stops : Nat → Bool) :
    Nat → Nat → List Entry
  | 0, _ => []
  | remaining + 1, index =>
      entry index :: if stops index then [] else breakLoop entry stops remaining (index + 1)

/-- No index before this one stops the loop. -/
def Reaches (stops : Nat → Prop) (index : Nat) : Prop := ∀ earlier < index, ¬ stops earlier

theorem Reaches.of_le {stops : Nat → Prop} {index later : Nat} (reaches : Reaches stops later)
    (within : index ≤ later) : Reaches stops index :=
  fun earlier before => reaches earlier (Nat.lt_of_lt_of_le before within)

theorem reaches_zero (stops : Nat → Prop) : Reaches stops 0 :=
  fun _ impossible => absurd impossible (Nat.not_lt_zero _)

theorem reaches_succ_iff (stops : Nat → Prop) (index : Nat) :
    Reaches stops (index + 1) ↔ Reaches stops index ∧ ¬ stops index := by
  apply Iff.intro
  · intro reaches
    exact ⟨reaches.of_le (Nat.le_succ index), reaches index (Nat.lt_succ_self index)⟩
  · intro split earlier before
    rcases Nat.lt_succ_iff_lt_or_eq.mp before with less | rfl
    · exact split.1 earlier less
    · exact split.2

/-- The same test counted from one. -/
theorem reaches_succ_index_iff (stops : Nat → Prop) (index : Nat) :
    Reaches (fun position => stops (position + 1)) index ↔
      ∀ number, 1 ≤ number → number ≤ index → ¬ stops number := by
  apply Iff.intro
  · intro reaches number positive within
    obtain ⟨position, rfl⟩ := Nat.exists_eq_add_of_le' positive
    exact reaches position (by omega)
  · intro all position before
    exact all (position + 1) (by omega) (by omega)

section Loops

variable {Entry : Type} (entry : Nat → Entry) (stops : Nat → Bool)

/-- The loop has an entry for each index that it reaches within its count. -/
theorem lt_breakLoop_length_iff (count first k : Nat) :
    k < (breakLoop entry stops count first).length ↔
      k < count ∧ ∀ j < k, stops (first + j) = false := by
  induction count generalizing first k with
  | zero => simp [breakLoop]
  | succ count ih =>
      cases k with
      | zero => simp [breakLoop]
      | succ k =>
          rw [breakLoop, List.length_cons, Nat.add_lt_add_iff_right, Nat.add_lt_add_iff_right]
          cases stop : stops first with
          | true =>
              simp only [if_pos, List.length_nil, Nat.not_lt_zero, false_iff, not_and]
              intro _ all
              have unstopped := all 0 (Nat.succ_pos k)
              rw [Nat.add_zero, stop] at unstopped
              exact absurd unstopped (by decide)
          | false =>
              rw [if_neg (by decide), ih]
              apply and_congr_right
              intro _
              apply Iff.intro
              · intro later j inside
                cases j with
                | zero => exact stop
                | succ j =>
                    rw [show first + (j + 1) = first + 1 + j by omega]
                    exact later j (by omega)
              · intro all j inside
                rw [show first + 1 + j = first + (j + 1) by omega]
                exact all (j + 1) (by omega)

theorem breakLoop_length_le (count first : Nat) :
    (breakLoop entry stops count first).length ≤ count := by
  by_contra long
  exact absurd ((lt_breakLoop_length_iff entry stops count first count).mp (by omega)).1
    (Nat.lt_irrefl count)

/-- Each entry of the list belongs to its own index. -/
theorem breakLoop_getElem? {count first k : Nat} {value : Entry}
    (here : (breakLoop entry stops count first)[k]? = some value) : value = entry (first + k) := by
  induction count generalizing first k with
  | zero => simp [breakLoop] at here
  | succ count ih =>
      rw [breakLoop] at here
      cases k with
      | zero => exact (Option.some.inj here).symm
      | succ k =>
          rw [List.getElem?_cons_succ] at here
          split at here
          · simp at here
          · rw [ih here]
            congr 1
            omega

/-- A loop that breaks early has a last entry, and the index of that entry stops it. -/
theorem breakLoop_stopped {count first : Nat}
    (short : (breakLoop entry stops count first).length < count) :
    ∃ k, (breakLoop entry stops count first).length = k + 1 ∧ stops (first + k) = true := by
  -- The length itself is an index that the loop does not reach.
  have unreached := mt (lt_breakLoop_length_iff entry stops count first _).mpr
    (Nat.lt_irrefl (breakLoop entry stops count first).length)
  simp only [short, true_and, not_forall, Bool.not_eq_false] at unreached
  obtain ⟨k, before, stop⟩ := unreached
  refine ⟨k, ?_, stop⟩
  by_contra differs
  have reached := (lt_breakLoop_length_iff entry stops count first (k + 1)).mp (by omega)
  rw [reached.2 k (Nat.lt_succ_self k)] at stop
  exact absurd stop (by decide)

end Loops

section Comparison

variable {actual required : Nat → Prop} {count : Nat}

/-- Two stop tests let a loop reach the same indices exactly when they agree at each index that
both of them let the loop reach and that is not the last one. -/
theorem reaches_iff_iff :
    (∀ k < count, Reaches actual k ↔ Reaches required k) ↔
      ∀ k, k + 1 < count → Reaches actual k → Reaches required k →
        (actual k ↔ required k) := by
  apply Iff.intro
  · intro same k inside reachesActual reachesRequired
    have next := same (k + 1) inside
    rw [reaches_succ_iff, reaches_succ_iff] at next
    simp only [reachesActual, reachesRequired, true_and] at next
    exact not_iff_not.mp next
  · intro agree k inside
    induction k with
    | zero => exact ⟨fun _ => reaches_zero required, fun _ => reaches_zero actual⟩
    | succ k ih =>
        have previous := ih (by omega)
        rw [reaches_succ_iff, reaches_succ_iff, ← previous]
        apply and_congr_right
        intro reachesActual
        exact not_congr (agree k inside reachesActual (previous.mp reachesActual))

end Comparison

end NetworkTools.Library
