/-
This file states what the ping statistics and the traceroute of the manager owe to their outcomes.
-/

import NetworkTools.Construction.IcmpManager
import NetworkTools.Library.Statistics
import Mathlib.Order.Bounds.Basic

namespace NetworkTools.Specification
open Library

section Ping

/-- The outcomes of a ping: one attempt for each packet. -/
def attempts (manager : IcmpManager) (client : Nat → EchoCall) (addr : String) (count : Int) :
    List Attempt :=
  (List.range count.toNat).map fun i => client i addr 64 manager.timeout

/-- The time of a successful attempt. -/
def successRtt (attempt : Attempt) : Option ℚ :=
  match attempt.result with
  | .ok reply => if reply.success then some (IcmpManager.attemptRtt attempt) else none
  | .error _ => none

def successRtts (attempts : List Attempt) : List ℚ := attempts.filterMap successRtt

/-- The extremes and the mean are those of the successful times. -/
structure MatchesTimes (times : List ℚ) (results : PingResults) (rttMin : ℚ) : Prop where
  isMin : results.rttMin = some rttMin
  least : IsLeast {time | time ∈ times} rttMin
  greatest : IsGreatest {time | time ∈ times} results.rttMax
  average : results.rttAvg = Statistics.mean times
  min_le : rttMin ≤ results.rttAvg
  le_max : results.rttAvg ≤ results.rttMax

structure MatchesOutcomes (count : Int) (attempts : List Attempt) (results : PingResults) :
    Prop where
  received : results.packetsReceived = attempts.countP fun attempt => (successRtt attempt).isSome
  times : results.rttTimes = successRtts attempts
  loss : results.packetLoss = 100 * (count - results.packetsReceived) / count
  rtt : successRtts attempts ≠ [] →
    ∃ rttMin, MatchesTimes (successRtts attempts) results rttMin

end Ping

section Tracert

/-- The hop at this place answers from the address that the name resolves to. -/
def AtDestination (world : Nat → HopWorld) (addr : String) (hops : List TracertHop) (k : Nat) :
    Prop :=
  ∃ hop, hops[k]? = some hop ∧ hop.status = .success ∧
    some hop.ipAddress = IcmpManager.resolveHostname (world (k + 1)) addr

def TimedOut (hops : List TracertHop) (k : Nat) : Prop :=
  ∃ hop, hops[k]? = some hop ∧ hop.status = .timeout

/-- Three hops in a row time out from this place on. -/
def TimedOutThrice (hops : List TracertHop) (k : Nat) : Prop :=
  TimedOut hops k ∧ TimedOut hops (k + 1) ∧ TimedOut hops (k + 2)

/-- The trace numbers its hops, and it stops at the destination or behind three timeouts only. -/
structure TracertShape (world : Nat → HopWorld) (addr : String) (maxHops : Int)
    (hops : List TracertHop) : Prop where
  numbers : ∀ (k : Nat) hop, hops[k]? = some hop → hop.hopNumber = k + 1
  length_le : hops.length ≤ maxHops
  destination_last : ∀ k, AtDestination world addr hops k → k + 1 = hops.length
  timeouts_last : ∀ k, TimedOutThrice hops k → k + 3 = hops.length
  stopped : hops.length < maxHops →
    ∃ k, (k + 1 = hops.length ∧ AtDestination world addr hops k) ∨
      (k + 3 = hops.length ∧ TimedOutThrice hops k)

end Tracert

end NetworkTools.Specification
