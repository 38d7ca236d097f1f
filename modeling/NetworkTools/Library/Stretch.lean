/-
This file develops stretches of a growing log that follow each other in turn.
-/

import Mathlib.Data.List.Basic
import Mathlib.Tactic.Common

namespace NetworkTools.Library

/-- The part of a log that is added between two of its lengths. -/
structure Stretch where
  opened : Nat
  closed : Nat
  ordered : opened ≤ closed

namespace Stretch

/-- The stretches lie between two lengths, and each one begins where the one before has ended. -/
def InTurn : Nat → List Stretch → Nat → Prop
  | low, [], high => low ≤ high
  | low, stretch :: stretches, high => low ≤ stretch.opened ∧ InTurn stretch.closed stretches high

variable {low lower high : Nat} {stretches : List Stretch}

theorem InTurn.le (inTurn : InTurn low stretches high) : low ≤ high := by
  induction stretches generalizing low with
  | nil => exact inTurn
  | cons stretch stretches ih =>
      have rest := ih inTurn.2
      exact Nat.le_trans (Nat.le_trans inTurn.1 stretch.ordered) rest

theorem InTurn.of_le (inTurn : InTurn low stretches high) (below : lower ≤ low) :
    InTurn lower stretches high := by
  cases stretches with
  | nil => exact Nat.le_trans below inTurn
  | cons stretch stretches => exact ⟨Nat.le_trans below inTurn.1, inTurn.2⟩

theorem InTurn.within (inTurn : InTurn low stretches high) {stretch : Stretch}
    (present : stretch ∈ stretches) : low ≤ stretch.opened ∧ stretch.closed ≤ high := by
  induction stretches generalizing low with
  | nil => cases present
  | cons first stretches ih =>
      rcases List.mem_cons.mp present with rfl | later
      · exact ⟨inTurn.1, inTurn.2.le⟩
      · have inside := ih inTurn.2 later
        exact ⟨Nat.le_trans (Nat.le_trans inTurn.1 first.ordered) inside.1, inside.2⟩

/-- Of two stretches the first one ends before the second one begins. -/
theorem InTurn.pairwise (inTurn : InTurn low stretches high) :
    stretches.Pairwise fun earlier later => earlier.closed ≤ later.opened := by
  induction stretches generalizing low with
  | nil => exact List.Pairwise.nil
  | cons stretch stretches ih =>
      rw [List.pairwise_cons]
      exact ⟨fun later present => (inTurn.2.within present).1, ih inTurn.2⟩

theorem InTurn.apart (inTurn : InTurn low stretches high) {first second : Nat}
    {earlier later : Stretch} (less : first < second) (isFirst : stretches[first]? = some earlier)
    (isSecond : stretches[second]? = some later) : earlier.closed ≤ later.opened := by
  obtain ⟨firstInside, rfl⟩ := List.getElem?_eq_some_iff.mp isFirst
  obtain ⟨secondInside, rfl⟩ := List.getElem?_eq_some_iff.mp isSecond
  exact List.pairwise_iff_getElem.mp inTurn.pairwise first second firstInside secondInside less

/-- Each stretch with something in it takes a place of its own. -/
theorem InTurn.count_le (inTurn : InTurn low stretches high) :
    low + stretches.countP (fun stretch => stretch.opened < stretch.closed) ≤ high := by
  induction stretches generalizing low with
  | nil => exact inTurn
  | cons stretch stretches ih =>
      have rest := ih inTurn.2
      have first := inTurn.1
      have ordered := stretch.ordered
      rw [List.countP_cons]
      split
      · next filled =>
          rw [decide_eq_true_eq] at filled
          omega
      · omega

end Stretch
end NetworkTools.Library
