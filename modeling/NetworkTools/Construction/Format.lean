/-
This file models the report that the plugin makes of a ping result list.
-/

import NetworkTools.Construction.NetworkUtils
import Mathlib.Algebra.Order.Field.Rat

namespace NetworkTools

/-- One line of the report for one entry of the list. -/
inductive ReportLine where
  | reply (bytes : UInt64) (address : Address) (icmpSeq : UInt16) (ttl : Nat) (time : Int)
  | requestTimeout
deriving DecidableEq

/-- The round-trip statistics keep the square of the deviation. -/
structure RttStatistics where
  minimum : Int
  average : ℚ
  maximum : Int
  variance : ℚ
deriving DecidableEq

/-- The report holds the numbers that the text shows. -/
structure PingReport where
  address : Option Address
  details : Option (List ReportLine)
  transmitted : Nat
  received : Nat
  lossPercentage : ℚ
  rtt : Option RttStatistics
deriving DecidableEq

/-- The filter keeps the entries whose status is success. -/
def successes (result : List PingEntry) : List PingSuccess :=
  result.filterMap fun
    | .success success => some success
    | .error _ => none

def reportLine : PingEntry → ReportLine
  | .success success =>
      .reply success.bytes success.address success.icmpSeq success.ttl success.time
  | .error _ => .requestTimeout

def formatPingResult (result : List PingEntry) : PingReport :=
  let transmitted := result.length
  let received := (successes result).length
  let lossPercentage : ℚ :=
    if 0 < transmitted then ((transmitted : ℚ) - received) / transmitted * 100 else 0
  let times := (successes result).map PingSuccess.time
  let minTime := times.min?.getD 0
  let maxTime := times.max?.getD 0
  let avgTime : ℚ := if 0 < received then (times.sum : ℚ) / received else 0
  let variance : ℚ :=
    if 0 < received then (times.map fun time : Int => ((time : ℚ) - avgTime) ^ 2).sum / received
    else 0
  { address := (successes result).head?.map PingSuccess.address
    details := if 10 < result.length then none else some (result.map reportLine)
    transmitted := transmitted
    received := received
    lossPercentage := lossPercentage
    rtt := if 0 < received then some ⟨minTime, avgTime, maxTime, variance⟩ else none }

end NetworkTools
