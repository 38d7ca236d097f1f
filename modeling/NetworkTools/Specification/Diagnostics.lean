/-
This file states what the network diagnostics owe to the pings of their addresses.
-/

import NetworkTools.Construction.NetworkDiagnostics
import NetworkTools.Specification.Manager

namespace NetworkTools.Specification
open Library

/-- The task at the last place of an address is the one that counts for it. -/
def Recorded (addresses : List String) (addr : String) (i : Nat) : Prop :=
  addresses[i]? = some addr ∧ ∀ j, i < j → addresses[j]? ≠ some addr

/-- The task ran a ping with at least one reply. -/
def GotReply (diagnostics : NetworkDiagnostics) (addr : String) (count : Int) (task : PingTask) :
    Prop :=
  ∃ client, task = .runs client ∧
    ∃ attempt ∈ attempts diagnostics.icmpManager client addr count, (successRtt attempt).isSome

/-- The map holds each address with a reply once, with its average, in the order of the averages. -/
structure MapsLatencies (diagnostics : NetworkDiagnostics) (task : Nat → PingTask)
    (addresses : List String) (latencyMap : List (String × ℚ)) : Prop where
  once : (latencyMap.map Prod.fst).Nodup
  complete : ∀ (i : Nat) addr, addresses[i]? = some addr → GotReply diagnostics addr 3 (task i) →
    ∃ rttAvg, (addr, rttAvg) ∈ latencyMap
  computed : ∀ addr rttAvg, (addr, rttAvg) ∈ latencyMap →
    ∃ (i : Nat) (client : Nat → EchoCall), addresses[i]? = some addr ∧ task i = .runs client ∧
      GotReply diagnostics addr 3 (task i) ∧
      rttAvg = (diagnostics.icmpManager.ping client addr 3).1.rttAvg
  sorted : latencyMap.Pairwise fun first second => first.2 ≤ second.2

/-- The test has one answer for each address, and it is positive for a recorded reply. -/
structure TestsConnectivity (diagnostics : NetworkDiagnostics) (task : Nat → PingTask)
    (addresses : List String) (connectivity : Dictionary String Bool) : Prop where
  keys : ∀ addr, addr ∈ connectivity.keys ↔ addr ∈ addresses
  replied : ∀ addr i, Recorded addresses addr i →
    (connectivity.get? addr = some true ↔ GotReply diagnostics addr 1 (task i))

end NetworkTools.Specification
