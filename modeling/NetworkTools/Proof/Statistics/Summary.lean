/-
This file proves that the numbers of a ping summary are consistent.
-/

import NetworkTools.Specification.Summary

namespace NetworkTools
open Library Specification

section Counts

variable (result : List PingEntry)

theorem successes_length_le : (successes result).length ≤ result.length :=
  List.length_filterMap_le _ result

theorem successes_eq_nil_iff :
    successes result = [] ↔ ∀ entry ∈ result, ¬ EntrySucceeded entry := by
  rw [successes, List.filterMap_eq_nil_iff]
  apply forall₂_congr
  intro entry _
  cases entry <;> simp [EntrySucceeded]

theorem successes_length_eq_iff :
    (successes result).length = result.length ↔ ∀ entry ∈ result, EntrySucceeded entry := by
  rw [successes, List.filterMap_length_eq_length]
  apply forall₂_congr
  intro entry _
  cases entry <;> simp [EntrySucceeded]

end Counts

section Loss

variable {result : List PingEntry} (nonempty : result ≠ [])

include nonempty

theorem formatPingResult_loss :
    (formatPingResult result).lossPercentage =
      ((result.length : ℚ) - (successes result).length) / result.length * 100 :=
  if_pos (List.length_pos_iff.mpr nonempty)

theorem loss_eq_zero_iff :
    (formatPingResult result).lossPercentage = 0 ↔ ∀ entry ∈ result, EntrySucceeded entry := by
  have positive : (0 : ℚ) < result.length := Nat.cast_pos.mpr (List.length_pos_iff.mpr nonempty)
  rw [formatPingResult_loss nonempty, ← successes_length_eq_iff, mul_eq_zero,
    or_iff_left (by norm_num), div_eq_zero_iff, or_iff_left (ne_of_gt positive), sub_eq_zero,
    Nat.cast_inj]
  exact eq_comm

theorem loss_eq_hundred_iff :
    (formatPingResult result).lossPercentage = 100 ↔ ∀ entry ∈ result, ¬ EntrySucceeded entry := by
  have positive : (0 : ℚ) < result.length := Nat.cast_pos.mpr (List.length_pos_iff.mpr nonempty)
  rw [formatPingResult_loss nonempty, ← successes_eq_nil_iff, ← List.length_eq_zero_iff,
    mul_eq_right₀ (by norm_num), div_eq_one_iff_eq (ne_of_gt positive), sub_eq_self,
    Nat.cast_eq_zero]

end Loss

theorem loss_bounds (result : List PingEntry) :
    0 ≤ (formatPingResult result).lossPercentage ∧
      (formatPingResult result).lossPercentage ≤ 100 := by
  by_cases empty : result = []
  · subst empty
    exact ⟨le_refl 0, by norm_num [formatPingResult]⟩
  · have counted : ((successes result).length : ℚ) ≤ result.length :=
      Nat.cast_le.mpr (successes_length_le result)
    have part : ((result.length : ℚ) - (successes result).length) / result.length ≤ 1 :=
      div_le_one_of_le₀ (sub_le_self _ (Nat.cast_nonneg _)) (Nat.cast_nonneg _)
    rw [formatPingResult_loss empty]
    apply And.intro
    · exact mul_nonneg (div_nonneg (sub_nonneg.mpr counted) (Nat.cast_nonneg _)) (by norm_num)
    · exact mul_le_of_le_one_left (by norm_num) part

section Rtt

/-- The statistics of a list of times, by the mean and the variance of numbers. -/
def rttStatistics (times : List Int) : RttStatistics where
  minimum := times.min?.getD 0
  average := Statistics.mean (times.map Int.cast)
  maximum := times.max?.getD 0
  variance := Statistics.variance (times.map Int.cast)

theorem formatPingResult_rtt {result : List PingEntry} (received : 0 < (successes result).length) :
    (formatPingResult result).rtt = some (rttStatistics (successTimes result)) := by
  have average : Statistics.mean ((successTimes result).map (Int.cast : Int → ℚ)) =
      ((successTimes result).sum : ℚ) / (successes result).length := by
    rw [Statistics.mean, ← Int.cast_list_sum, List.length_map, successTimes, List.length_map]
  have variance : Statistics.variance ((successTimes result).map (Int.cast : Int → ℚ)) =
      ((successTimes result).map fun time : Int =>
        ((time : ℚ) - (successTimes result).sum / (successes result).length) ^ 2).sum /
          (successes result).length := by
    rw [Statistics.variance, average, List.map_map, Statistics.mean, List.length_map,
      successTimes, List.length_map]
    rfl
  rw [rttStatistics, average, variance]
  simp only [formatPingResult, if_pos received]
  rfl

variable {times : List Int}

/-- The extremes are the least and the greatest time. -/
theorem rttStatistics_extremes (nonempty : times ≠ []) :
    IsLeast {time | time ∈ times} (rttStatistics times).minimum ∧
      IsGreatest {time | time ∈ times} (rttStatistics times).maximum := by
  obtain ⟨time, inside⟩ := List.exists_mem_of_ne_nil times nonempty
  obtain ⟨minimum, isMinimum⟩ := Option.isSome_iff_exists.mp (List.isSome_min?_of_mem inside)
  obtain ⟨maximum, isMaximum⟩ := Option.isSome_iff_exists.mp (List.isSome_max?_of_mem inside)
  simp only [rttStatistics, isMinimum, isMaximum, Option.getD_some]
  exact ⟨List.min?_eq_some_iff.mp isMinimum, List.max?_eq_some_iff.mp isMaximum⟩

/-- Each time lies between the extremes. -/
theorem times_bounded :
    ∀ value ∈ times.map (Int.cast : Int → ℚ),
      ((rttStatistics times).minimum : ℚ) ≤ value ∧ value ≤ (rttStatistics times).maximum := by
  intro value isValue
  obtain ⟨time, inside, rfl⟩ := List.mem_map.mp isValue
  obtain ⟨least, greatest⟩ := rttStatistics_extremes (List.ne_nil_of_mem inside)
  exact ⟨Int.cast_le.mpr (least.2 inside), Int.cast_le.mpr (greatest.2 inside)⟩

theorem mdev_rttStatistics_sq :
    mdev (rttStatistics times) ^ 2 = ((rttStatistics times).variance : ℝ) :=
  Real.sq_sqrt (Rat.cast_nonneg.mpr (Statistics.variance_nonneg _))

theorem consistentRtt (nonempty : times ≠ []) : ConsistentRtt times (rttStatistics times) := by
  have rational : times.map (Int.cast : Int → ℚ) ≠ [] := by simpa using nonempty
  obtain ⟨least, greatest⟩ := rttStatistics_extremes nonempty
  constructor
  case least => exact least
  case greatest => exact greatest
  case average => rfl
  case minimum_le =>
    exact Statistics.le_mean rational fun value inside => (times_bounded value inside).1
  case le_maximum =>
    exact Statistics.mean_le rational fun value inside => (times_bounded value inside).2
  case mdev_sq =>
    rw [mdev_rttStatistics_sq, rttStatistics, Statistics.variance_eq rational, List.map_map]
    rfl
  case mdev_sq_le =>
    rw [mdev_rttStatistics_sq]
    exact Rat.cast_le.mpr (Statistics.variance_le rational times_bounded)
  case mdev_eq_zero_iff =>
    rw [← pow_eq_zero_iff two_ne_zero, mdev_rttStatistics_sq, Rat.cast_eq_zero, rttStatistics,
      Statistics.variance_eq_zero_iff_pairwise]
    simp only [List.forall_mem_map, Int.cast_inj]

end Rtt

section Permutations

theorem rttStatistics_of_perm {times permuted : List Int} (same : times.Perm permuted) :
    rttStatistics times = rttStatistics permuted := by
  have rational := same.map (Int.cast : Int → ℚ)
  rw [rttStatistics, rttStatistics, Statistics.mean_of_perm rational,
    Statistics.variance_of_perm rational, Statistics.min?_of_perm same,
    Statistics.max?_of_perm same]

theorem sameNumbers_of_perm {result permuted : List PingEntry} (same : result.Perm permuted) :
    SameNumbers (formatPingResult result) (formatPingResult permuted) := by
  have kept : (successes result).Perm (successes permuted) := same.filterMap _
  have received : (successes result).length = (successes permuted).length := kept.length_eq
  constructor
  case transmitted => exact same.length_eq
  case received => exact received
  case lossPercentage => simp only [formatPingResult, same.length_eq, received]
  case rtt =>
    by_cases any : 0 < (successes result).length
    · rw [formatPingResult_rtt any, formatPingResult_rtt (received ▸ any)]
      exact congrArg some (rttStatistics_of_perm (kept.map _))
    · simp only [formatPingResult, ← received, if_neg any]

end Permutations

/-- The numbers of a summary are consistent and do not depend on the order of the entries. -/
theorem formatPingResult_consistent (result : List PingEntry) :
    ConsistentSummary result (formatPingResult result) ∧
      ∀ permuted, result.Perm permuted →
        SameNumbers (formatPingResult result) (formatPingResult permuted) := by
  refine ⟨?_, fun permuted same => sameNumbers_of_perm same⟩
  constructor
  case transmitted => rfl
  case received => exact (List.length_map _).symm
  case loss => exact formatPingResult_loss
  case received_le => exact successes_length_le result
  case loss_nonneg => exact (loss_bounds result).1
  case loss_le => exact (loss_bounds result).2
  case loss_eq_zero_iff => exact loss_eq_zero_iff
  case loss_eq_hundred_iff => exact loss_eq_hundred_iff
  case rtt =>
    intro received
    have nonempty : successTimes result ≠ [] := by
      rw [← List.length_pos_iff, successTimes, List.length_map]
      exact received
    exact ⟨_, formatPingResult_rtt received, consistentRtt nonempty⟩

/-- An error and a reply, in either order. -/
theorem formatPingResult_consistent_swapped :
    SameNumbers
      (formatPingResult [.error "timeout", .success ⟨64, .v4 ⟨#v[192, 0, 2, 7]⟩, 0, 64, 12⟩])
      (formatPingResult [.success ⟨64, .v4 ⟨#v[192, 0, 2, 7]⟩, 0, 64, 12⟩, .error "timeout"]) :=
  (formatPingResult_consistent _).2 _ (List.Perm.swap _ _ [])

end NetworkTools
