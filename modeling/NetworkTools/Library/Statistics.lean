/-
This file develops the mean and the population variance of a finite list of numbers.
-/

import Mathlib.Algebra.BigOperators.Group.List.Lemmas
import Mathlib.Algebra.Order.BigOperators.Group.List
import Mathlib.Algebra.Order.Field.Basic
import Mathlib.Tactic.FieldSimp
import Mathlib.Tactic.Ring

namespace NetworkTools.Library.Statistics

variable {K : Type} [Field K]

/-- The mean of the empty list is zero. -/
def mean (values : List K) : K := values.sum / values.length

def variance (values : List K) : K :=
  mean (values.map fun value => (value - mean values) ^ 2)

section Permutations

variable {values permuted : List K}

theorem mean_of_perm (same : values.Perm permuted) : mean values = mean permuted := by
  rw [mean, mean, same.sum_eq, same.length_eq]

theorem variance_of_perm (same : values.Perm permuted) :
    variance values = variance permuted := by
  rw [variance, variance, mean_of_perm same]
  exact mean_of_perm (same.map _)

end Permutations

section Extremes

variable {T : Type} [LinearOrder T] {values permuted : List T}

theorem min?_of_perm (same : values.Perm permuted) : values.min? = permuted.min? := by
  apply Option.ext
  intro value
  rw [List.min?_eq_some_iff, List.min?_eq_some_iff]
  simp only [same.mem_iff]

theorem max?_of_perm (same : values.Perm permuted) : values.max? = permuted.max? := by
  apply Option.ext
  intro value
  rw [List.max?_eq_some_iff, List.max?_eq_some_iff]
  simp only [same.mem_iff]

end Extremes

section Sums

/-- The squared distances from a centre, summed. -/
theorem sum_sub_sq (values : List K) (centre : K) :
    (values.map fun value => (value - centre) ^ 2).sum =
      (values.map (· ^ 2)).sum - 2 * centre * values.sum + values.length * centre ^ 2 := by
  induction values with
  | nil => simp
  | cons value rest ih =>
      simp only [List.map_cons, List.sum_cons, List.length_cons, Nat.cast_add, Nat.cast_one, ih]
      ring

/-- The products of the distances from two bounds, summed. -/
theorem sum_gap_mul_gap (values : List K) (lower upper : K) :
    (values.map fun value => (upper - value) * (value - lower)).sum =
      (upper + lower) * values.sum - (values.map (· ^ 2)).sum -
        values.length * (upper * lower) := by
  induction values with
  | nil => simp
  | cons value rest ih =>
      simp only [List.map_cons, List.sum_cons, List.length_cons, Nat.cast_add, Nat.cast_one, ih]
      ring

end Sums

variable [LinearOrder K] [IsStrictOrderedRing K]

theorem length_pos_of_ne_nil {values : List K} (nonempty : values ≠ []) :
    (0 : K) < values.length :=
  Nat.cast_pos.mpr (List.length_pos_iff.mpr nonempty)

/-- The variance is the mean of the squares without the square of the mean. -/
theorem variance_eq {values : List K} (nonempty : values ≠ []) :
    variance values = mean (values.map (· ^ 2)) - mean values ^ 2 := by
  have positive := length_pos_of_ne_nil nonempty
  rw [variance, mean, sum_sub_sq, List.length_map, mean, mean, List.length_map]
  field_simp
  ring

section Bounds

variable {values : List K} {lower upper : K}

theorem mean_le (nonempty : values ≠ []) (bounded : ∀ value ∈ values, value ≤ upper) :
    mean values ≤ upper := by
  have total := List.sum_le_card_nsmul values upper bounded
  rw [nsmul_eq_mul] at total
  rw [mean, div_le_iff₀ (length_pos_of_ne_nil nonempty), mul_comm]
  exact total

theorem le_mean (nonempty : values ≠ []) (bounded : ∀ value ∈ values, lower ≤ value) :
    lower ≤ mean values := by
  have total := List.card_nsmul_le_sum values lower bounded
  rw [nsmul_eq_mul] at total
  rw [mean, le_div_iff₀ (length_pos_of_ne_nil nonempty), mul_comm]
  exact total

theorem mean_nonneg (bounded : ∀ value ∈ values, 0 ≤ value) : 0 ≤ mean values :=
  div_nonneg (List.sum_nonneg bounded) (Nat.cast_nonneg _)

theorem mean_gap_mul_gap (nonempty : values ≠ []) :
    mean (values.map fun value => (upper - value) * (value - lower)) =
      (upper - mean values) * (mean values - lower) - variance values := by
  have positive := length_pos_of_ne_nil nonempty
  rw [variance_eq nonempty, mean, mean, mean, List.length_map, List.length_map, sum_gap_mul_gap]
  field_simp
  ring

/-- The variance of bounded numbers is largest when each of them is one of the two bounds. -/
theorem variance_le (nonempty : values ≠ [])
    (bounded : ∀ value ∈ values, lower ≤ value ∧ value ≤ upper) :
    variance values ≤ (upper - mean values) * (mean values - lower) := by
  have gaps : 0 ≤ mean (values.map fun value => (upper - value) * (value - lower)) := by
    apply mean_nonneg
    intro gap isGap
    obtain ⟨value, inside, rfl⟩ := List.mem_map.mp isGap
    exact mul_nonneg (sub_nonneg.mpr (bounded value inside).2)
      (sub_nonneg.mpr (bounded value inside).1)
  rw [mean_gap_mul_gap nonempty] at gaps
  exact sub_nonneg.mp gaps

end Bounds

section Equality

variable (values : List K)

theorem squares_nonneg (centre : K) :
    ∀ square ∈ values.map fun value => (value - centre) ^ 2, 0 ≤ square := by
  intro square isSquare
  obtain ⟨value, _, rfl⟩ := List.mem_map.mp isSquare
  exact sq_nonneg (value - centre)

theorem variance_nonneg : 0 ≤ variance values :=
  mean_nonneg (squares_nonneg values (mean values))

/-- A list without variance repeats its mean. -/
theorem variance_eq_zero_iff :
    variance values = 0 ↔ ∀ value ∈ values, value = mean values := by
  apply Iff.intro
  · intro none value inside
    have positive := length_pos_of_ne_nil (List.ne_nil_of_mem inside)
    rw [variance, mean, List.length_map, div_eq_zero_iff] at none
    have total := none.resolve_right (ne_of_gt positive)
    have square := List.all_zero_of_le_zero_le_of_sum_eq_zero
      (squares_nonneg values (mean values)) total (List.mem_map_of_mem inside)
    exact sub_eq_zero.mp (pow_eq_zero_iff two_ne_zero |>.mp square)
  · intro all
    rw [variance, mean, div_eq_zero_iff]
    apply Or.inl
    apply List.sum_eq_zero
    intro square isSquare
    obtain ⟨value, inside, rfl⟩ := List.mem_map.mp isSquare
    rw [all value inside, sub_self, zero_pow two_ne_zero]

theorem variance_eq_zero_iff_pairwise :
    variance values = 0 ↔ ∀ first ∈ values, ∀ second ∈ values, first = second := by
  rw [variance_eq_zero_iff]
  apply Iff.intro
  · intro all first isFirst second isSecond
    rw [all first isFirst, all second isSecond]
  · intro same value inside
    have nonempty := List.ne_nil_of_mem inside
    apply le_antisymm
    · exact le_mean nonempty fun other isOther => le_of_eq (same value inside other isOther)
    · exact mean_le nonempty fun other isOther => le_of_eq (same other isOther value inside)

end Equality

end NetworkTools.Library.Statistics
