/-
This file states what the entries of a trace owe to the probes with their hop limits.
-/

import NetworkTools.Specification.Elicitation

namespace NetworkTools
open Library Specification

section Entries

/-- The run of the three probes with one hop limit. -/
def hopRun (ip : IpType) (route : Route) (dest : String) (timeout : Int) (ttl : Nat) : PingRun ip :=
  pingRun ip (route.hop ttl) dest 3 ttl (ofMilliseconds timeout)

/-- The sources of the answers, in the order of the probes. -/
def answerSources (ip : IpType) (network : Network) (probes : List (Probe ip)) : List Address :=
  probes.filterMap fun probe =>
    (probe.source network.traffic).map fun arrival => datagramSource ip arrival.message

/-- The first specified source of an answer. -/
def firstSpecified (sources : List Address) : Option Address :=
  sources.find? fun address => !address.isUnspecified

/-- A datagram without a single byte answers nothing, although a probe of version four could keep
it for an answer. A raw socket of this version delivers each datagram with its header. -/
def Probe.Answered {ip : IpType} (network : Network) (probe : Probe ip) : Prop :=
  ∃ arrival, probe.source network.traffic = some arrival ∧ arrival.message.bytes ≠ []

/-- The entry tells what the three probes with its hop limit met. -/
def Describes (ip : IpType) (route : Route) (dest : String) (timeout : Int) (ttl : Nat) :
    HopEntry → Prop
  | .error message => (hopRun ip route dest timeout ttl).failure = some message
  | .success shownTtl delay shown =>
      shownTtl = ttl ∧ (hopRun ip route dest timeout ttl).failure = none ∧
        (hopRun ip route dest timeout ttl).probes.length = 3 ∧ delay.length = 3 ∧
        (∀ (index : Nat) probe value,
          (hopRun ip route dest timeout ttl).probes[index]? = some probe →
            delay[index]? = some value → (value = -1 ↔ ¬ probe.Answered (route.hop ttl))) ∧
        shown = firstSpecified
          (answerSources ip (route.hop ttl) (hopRun ip route dest timeout ttl).probes)

/-- The entry records this address. -/
def HopEntry.Records (entry : HopEntry) (address : Address) : Prop :=
  ∃ ttl delay, entry = .success ttl delay (some address)

/-- The entry records no address although its probes were completed. -/
def HopEntry.RecordsTimeout (entry : HopEntry) : Prop :=
  ∃ ttl delay, entry = .success ttl delay none

end Entries

section Stops

/-- The address that a hop limit records. A failed or timed out one records none. -/
def hopRecord (ip : IpType) (route : Route) (dest : String) (timeout : Int) (ttl : Nat) :
    Option Address :=
  if (hopRun ip route dest timeout ttl).failure = none then
    firstSpecified (answerSources ip (route.hop ttl) (hopRun ip route dest timeout ttl).probes)
  else none

/-- This hop limit and the ones before it make so many hops in a row without an address. -/
def CompletesSilence (ip : IpType) (route : Route) (dest : String) (timeout : Int)
    (tolerance ttl : Nat) : Prop :=
  tolerance ≤ ttl ∧ ∀ k, ttl < k + tolerance → k ≤ ttl → hopRecord ip route dest timeout k = none

/-- The rule tolerates one silent hop more when no earlier hop has an address. -/
def GivesUp (ip : IpType) (route : Route) (dest : String) (timeout : Int) (ttl : Nat) : Prop :=
  CompletesSilence ip route dest timeout 11 ttl ∨
    CompletesSilence ip route dest timeout 10 ttl ∧
      ∃ earlier, 1 ≤ earlier ∧ earlier < ttl ∧ hopRecord ip route dest timeout earlier ≠ none

/-- A completed hop stops the trace at the destination or by the give-up rule. -/
def StopsAt (ip : IpType) (route : Route) (dest : String) (timeout : Int)
    (destination : Address) (canPing : Bool) (ttl : Nat) : Prop :=
  (hopRun ip route dest timeout ttl).failure = none ∧
    ((hopRecord ip route dest timeout ttl).getD Address.unspecified = destination ∨
      GivesUp ip route dest timeout ttl ∧ canPing = false)

/-- The trace probes each hop limit until one completes a silence of this length. -/
def GivesUpAfter (ip : IpType) (route : Route) (dest : String) (timeout : Int) (hopsCount : Int)
    (tolerance : Nat) : Prop :=
  ∀ k : Nat, k < (tracert ip route dest hopsCount timeout).length ↔
    k < hopsCount ∧ ∀ ttl, 1 ≤ ttl → ttl ≤ k →
      ¬ CompletesSilence ip route dest timeout tolerance ttl

end Stops

section Destinations

/-- A datagram comes from its sender's address. The receiver drops the scope of this address. -/
def datagramOrigin : IpType → Datagram → Address
  | .useIpv4, datagram => datagramSource .useIpv4 datagram
  | .useIpv6, datagram => .v6 datagram.sender

def Probe.AnsweredFrom {ip : IpType} (network : Network) (address : Address) (probe : Probe ip) :
    Prop :=
  ∃ arrival, probe.source network.traffic = some arrival ∧ arrival.message.bytes ≠ [] ∧
    datagramOrigin ip arrival.message = address

/-- One of the three probes with this hop limit has an answer from the destination. -/
def DestinationAnswers (ip : IpType) (route : Route) (dest : String) (timeout : Int)
    (destination : Address) (ttl : Nat) : Prop :=
  ∃ probe ∈ (hopRun ip route dest timeout ttl).probes,
    probe.AnsweredFrom (route.hop ttl) destination

/-- The trace probes no hop limit beyond one at which the destination answers. -/
def StopsOnceAnswered (ip : IpType) (route : Route) (dest : String) (hopsCount timeout : Int)
    (destination : Address) : Prop :=
  ∀ ttl : Nat, 1 ≤ ttl → DestinationAnswers ip route dest timeout destination ttl →
    (tracert ip route dest hopsCount timeout).length ≤ ttl

end Destinations

section Paths

/-- The completed probes with this hop limit have answers from this address alone, or none. -/
structure AnswersFrom (ip : IpType) (route : Route) (dest : String) (timeout : Int) (ttl : Nat)
    (answer : Option Address) : Prop where
  complete : (hopRun ip route dest timeout ttl).failure = none
  only : ∀ address ∈ answerSources ip (route.hop ttl) (hopRun ip route dest timeout ttl).probes,
    answer = some address
  answered : answer.isSome →
    answerSources ip (route.hop ttl) (hopRun ip route dest timeout ttl).probes ≠ []

/-- The route has one router or a silent one at each distance. The destination stands at the end
alone, and no ten hops in a row are silent. -/
structure Leads (ip : IpType) (route : Route) (dest : String) (timeout : Int)
    (destination : Address) (path : List (Option Address)) : Prop where
  hops : ∀ (index : Nat) answer, path[index]? = some answer →
    AnswersFrom ip route dest timeout (index + 1) answer
  specified : ∀ address, some address ∈ path → address.isUnspecified = false
  arrives : path.getLast? = some (some destination)
  once : some destination ∉ path.dropLast
  audible : ∀ first, first + 10 ≤ path.length →
    ∃ k address, first ≤ k ∧ k < first + 10 ∧ path[k]? = some (some address)

end Paths

end NetworkTools
