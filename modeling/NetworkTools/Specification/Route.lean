/-
This file states what a trace of the manager shows of its replies and of the datagrams behind them.
-/

import NetworkTools.Specification.Usage

namespace NetworkTools
open Library Specification IcmpManager

section Hops

/-- The hop that the manager makes of three replies. -/
def hopOfReplies (world : HopWorld) (source : String) (ttl : Int) (replies : List EchoResult) :
    TracertHop where
  hopNumber := ttl
  ipAddress := if replies.any EchoResult.success then source else "*"
  hostname := if replies.any EchoResult.success then reverseDnsLookup world source else none
  responseTimes := replies.map fun reply =>
    if reply.success then some reply.responseTime else none
  status := if replies.any EchoResult.success then .success else .timeout

/-- The source of the datagram at this position of the log. -/
def sourceAt (host : Host) (position : Nat) : String :=
  dottedQuad ((((host.sockets.log[position]?).getD []).take 16).drop 12)

/-- The datagram that names a hop arrives during this hop. -/
def Names (last : Host) (stretch : HopStretch) (hop : TracertHop) (position : Nat) : Prop :=
  stretch.opened ≤ position ∧ position < stretch.closed ∧ hop.ipAddress = sourceAt last position

end Hops

section Routes

/-- The three replies of a hop name one source, or all of them are failures. -/
structure RepliesFrom (answer : Option String) (replies : Nat → EchoResult) : Prop where
  named : answer ≠ some ""
  names : ∀ i < 3, (replies i).success = true → answer = some (replies i).srcIp
  answered : answer.isSome → ∃ i < 3, (replies i).success = true

/-- The route has one router or a silent one at each distance. The target stands at the end alone,
and behind the first hop no three in a row are silent. -/
structure Routes (manager : IcmpManager) (world : Nat → HopWorld) (addr : String)
    (replies : Nat → Nat → EchoResult) (route : List (Option String)) (target : String) :
    Prop where
  probes : ∀ k < route.length, ∀ i < 3,
    (world (k + 1)).probe i addr ((k + 1 : Nat) : Int) manager.timeout = .ok (replies (k + 1) i)
  hops : ∀ (k : Nat) answer, route[k]? = some answer → RepliesFrom answer (replies (k + 1))
  resolves : ∀ k < route.length, resolveHostname (world (k + 1)) addr = some target
  arrives : route.getLast? = some (some target)
  once : some target ∉ route.dropLast
  audible : ∀ first, 0 < first → first + 3 ≤ route.length →
    ∃ k source, first ≤ k ∧ k < first + 3 ∧ route[k]? = some (some source)

/-- The first line of a printed trace. -/
def routeHeader (addr : String) (maxHops : Int) : String :=
  s!"Tracing route to {addr} over a maximum of {maxHops} hops:\n"

end Routes

end NetworkTools
