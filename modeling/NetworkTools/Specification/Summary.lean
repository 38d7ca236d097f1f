/-
This file states what the numbers of a ping summary owe to each other.
-/

import NetworkTools.Construction.Format
import NetworkTools.Library.Statistics
import Mathlib.Analysis.Real.Sqrt
import Mathlib.Order.Bounds.Basic

namespace NetworkTools.Specification
open Library

def EntrySucceeded (entry : PingEntry) : Prop := ∃ success, entry = .success success

def successTimes (result : List PingEntry) : List Int :=
  (successes result).map PingSuccess.time

/-- The deviation is the square root of the variance that the statistics keep. -/
noncomputable def mdev (rtt : RttStatistics) : ℝ := Real.sqrt rtt.variance

/-- The extremes and the average are those of the times. The deviation is the one of the whole
population, and it is bounded by the extremes. -/
structure ConsistentRtt (times : List Int) (rtt : RttStatistics) : Prop where
  least : IsLeast {time | time ∈ times} rtt.minimum
  greatest : IsGreatest {time | time ∈ times} rtt.maximum
  average : rtt.average = Statistics.mean (times.map fun time : Int => (time : ℚ))
  minimum_le : (rtt.minimum : ℚ) ≤ rtt.average
  le_maximum : rtt.average ≤ rtt.maximum
  mdev_sq : mdev rtt ^ 2 =
    ((Statistics.mean (times.map fun time : Int => (time : ℚ) ^ 2) - rtt.average ^ 2 : ℚ) : ℝ)
  mdev_sq_le : mdev rtt ^ 2 ≤
    (((rtt.maximum - rtt.average) * (rtt.average - rtt.minimum) : ℚ) : ℝ)
  mdev_eq_zero_iff : mdev rtt = 0 ↔ ∀ first ∈ times, ∀ second ∈ times, first = second

/-- The counts are those of the entries and of the successes. The loss is a percentage of the
entries, and the times have statistics if there are any. -/
structure ConsistentSummary (result : List PingEntry) (report : PingReport) : Prop where
  transmitted : report.transmitted = result.length
  received : report.received = (successTimes result).length
  loss : result ≠ [] → report.lossPercentage =
    ((report.transmitted : ℚ) - report.received) / report.transmitted * 100
  received_le : report.received ≤ report.transmitted
  loss_nonneg : 0 ≤ report.lossPercentage
  loss_le : report.lossPercentage ≤ 100
  loss_eq_zero_iff : result ≠ [] →
    (report.lossPercentage = 0 ↔ ∀ entry ∈ result, EntrySucceeded entry)
  loss_eq_hundred_iff : result ≠ [] →
    (report.lossPercentage = 100 ↔ ∀ entry ∈ result, ¬ EntrySucceeded entry)
  rtt : 0 < report.received →
    ∃ rtt, report.rtt = some rtt ∧ ConsistentRtt (successTimes result) rtt

/-- Two reports show the same numbers. -/
structure SameNumbers (first second : PingReport) : Prop where
  transmitted : first.transmitted = second.transmitted
  received : first.received = second.received
  lossPercentage : first.lossPercentage = second.lossPercentage
  rtt : first.rtt = second.rtt

end NetworkTools.Specification
