/-
This file states which request of a trace elicited a received datagram.
-/

import NetworkTools.Specification.Rounds

namespace NetworkTools.Specification
open Library

/-- A trace sends three requests for each hop limit. -/
structure HopRequest where
  ttl : Nat
  sequence : Int
  positive : 1 ≤ ttl
  inTurn : 0 ≤ sequence ∧ sequence < 3
deriving DecidableEq

/-- The source of a datagram is in its IP header or in the endpoint of the socket. -/
def datagramSource : IpType → Datagram → Address
  | .useIpv4, datagram =>
      .v4 ⟨#v[byteAt datagram.bytes 12, byteAt datagram.bytes 13, byteAt datagram.bytes 14,
        byteAt datagram.bytes 15]⟩
  | .useIpv6, datagram => .v6 ⟨datagram.sender.bytes, 0⟩

/-- Each queue position has at most one cause among the requests of the trace.
A cause is no later than its effect, and the datagram answers it. -/
structure Elicitation (ip : IpType) (route : Route) (dest : String) where
  cause : Nat → Nat → Option HopRequest
  earlier : ∀ ttl position request, cause ttl position = some request → request.ttl ≤ ttl
  answers : ∀ ttl position request arrival, cause ttl position = some request →
    (route.hop ttl).traffic position = some arrival →
      ∃ destination, (route.hop request.ttl).resolve dest = .ok destination ∧
        Answers ip (route.hop request.ttl).identifier destination request.sequence
          arrival.message.bytes

/-- A request with this hop limit elicited the datagram at this position. -/
def Elicitation.ElicitedAt {ip : IpType} {route : Route} {dest : String}
    (elicitation : Elicitation ip route dest) (ttl position : Nat) : Prop :=
  ∃ request, elicitation.cause ttl position = some request ∧ request.ttl = ttl

/-- The waits of a hop take no answer that other requests or other programs elicited. -/
def Elicitation.TakesOwnAnswers {ip : IpType} {route : Route} {dest : String}
    (elicitation : Elicitation ip route dest) (timeout : Int) (ttl : Nat) : Prop :=
  ∀ destination index position arrival,
    PingTakes ip (route.hop ttl) dest 3 ttl (ofMilliseconds timeout) destination index position
      arrival →
    ReadsAsAnswer ip (route.hop ttl).identifier index arrival.message.bytes →
      elicitation.ElicitedAt ttl position

end NetworkTools.Specification
