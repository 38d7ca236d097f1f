/-
This file states how the manager uses the clients of its host, one after the other or at once.
-/

import NetworkTools.Library.Stretch
import NetworkTools.Specification.Delivery
import NetworkTools.Specification.Diagnostics

namespace NetworkTools.Specification
open Library

/-- The reply reports the datagram at this position of the log. -/
def ReportsArrival (log : List (List UInt8)) (position : Nat) (reply : EchoResult) : Prop :=
  ∃ record datagram, ReportsDatagram log record reply position datagram

/-- A client is opened and closed. Other events may happen between its own. -/
def usageEvents (number : Nat) (during : List HostEvent) : List HostEvent :=
  .enter number :: (during ++ [.exit number])

/-- A new client serves one call while it is open. -/
structure Serves (addr : String) (ttl : Int) (timeout : ℚ) (host : Host) (number : Nat)
    (during : List HostEvent) (result : Except String EchoResult) (next : Host) : Prop where
  fresh : host.client number = {}
  calls : .call number addr ttl (some timeout) ∈ during
  stays : ∀ event ∈ during, event ≠ .exit number
  ran : host.run (usageEvents number during) = some next
  returns : ∃ record, (next.client number).history = [record] ∧
    record.result = result.mapError .exception

/-- What arrives on the host between two of its states. -/
structure Covers (stretch : Stretch) (host next : Host) : Prop where
  opened : stretch.opened = host.sockets.log.length
  closed : stretch.closed = next.sockets.log.length

section Ping

/-- An attempt of a ping and what arrives during this attempt. -/
structure AttemptStretch extends Stretch where
  attempt : Attempt

/-- The manager reads the clock before and behind the use of a client. It cannot open the client of
an attempt that raises. -/
inductive Makes (addr : String) (timeout : ℚ) (host : Host) :
    List HostEvent → AttemptStretch → Host → Prop where
  | refused {stretch : AttemptStretch} {text : String} (covers : Covers stretch.toStretch host host)
      (raises : stretch.attempt.result = .error text) : Makes addr timeout host [] stretch host
  | served {stretch : AttemptStretch} {number : Nat} {during : List HostEvent} {next : Host}
      (covers : Covers stretch.toStretch host next)
      (serves : Serves addr 64 timeout host number during stretch.attempt.result next)
      (starts : stretch.attempt.startTime ≤ host.clock)
      (ends : next.clock ≤ stretch.attempt.endTime) :
      Makes addr timeout host (usageEvents number during) stretch next

/-- A ping makes its attempts in turn, and anything else may happen around them. -/
inductive PingRuns (addr : String) (timeout : ℚ) :
    Host → List HostEvent → List AttemptStretch → Host → Prop where
  | done {host last : Host} {events : List HostEvent} (ran : host.run events = some last) :
      PingRuns addr timeout host events [] last
  | attempt {host opened closed last : Host} {pause events later : List HostEvent}
      {stretch : AttemptStretch} {stretches : List AttemptStretch}
      (paused : host.run pause = some opened)
      (makes : Makes addr timeout opened events stretch closed)
      (rest : PingRuns addr timeout closed later stretches last) :
      PingRuns addr timeout host (pause ++ (events ++ later)) (stretch :: stretches) last

/-- A success reports the first datagram that arrives during its attempt. -/
structure ReportsFirst (last : Host) (stretch : AttemptStretch) (reply : EchoResult) : Prop where
  arrived : stretch.opened < stretch.closed
  reports : ReportsArrival last.sockets.log stretch.opened reply
  responseTime_le : reply.responseTime ≤ IcmpManager.attemptRtt stretch.attempt

/-- The statistics count arrivals, each of them once. -/
structure CountsArrivals (host last : Host) (stretches : List AttemptStretch)
    (results : PingResults) : Prop where
  inTurn : Stretch.InTurn host.sockets.log.length
    (stretches.map AttemptStretch.toStretch) last.sockets.log.length
  reports : ∀ stretch ∈ stretches, ∀ reply, stretch.attempt.result = .ok reply →
    reply.success = true → ReportsFirst last stretch reply
  received_le : host.sockets.log.length + results.packetsReceived ≤ last.sockets.log.length
  times_nonneg : ∀ time ∈ results.rttTimes, 0 ≤ time

/-- Two successes show the same source and the same data. -/
def SameReport (first second : AttemptStretch) : Prop :=
  ∀ reply other, first.attempt.result = .ok reply → reply.success = true →
    second.attempt.result = .ok other → other.success = true →
      reply.srcIp = other.srcIp ∧ reply.responseData = other.responseData

/-- The task at this place of a batch pings this address. -/
def Pings (addresses : List String) (task : Nat → PingTask) (i : Nat) (addr : String)
    (client : Nat → EchoCall) : Prop :=
  addresses[i]? = some addr ∧ task i = .runs client

/-- The pings of a batch run side by side on one host. -/
def BatchRuns (diagnostics : NetworkDiagnostics) (task : Nat → PingTask) (addresses : List String)
    (count : Int) (host : Host) (events : List HostEvent) (stretches : Nat → List AttemptStretch)
    (last : Host) : Prop :=
  ∀ i addr client, Pings addresses task i addr client →
    attempts diagnostics.icmpManager client addr count =
        (stretches i).map AttemptStretch.attempt ∧
      PingRuns addr diagnostics.icmpManager.timeout host events (stretches i) last

end Ping

section Tracert

/-- The replies of a hop and what arrives during this hop. -/
structure HopStretch extends Stretch where
  replies : Nat → EchoResult

/-- Each probe of a hop has a client of its own among the events of the hop. -/
structure Probes (addr : String) (ttl : Int) (timeout : ℚ) (host : Host) (events : List HostEvent)
    (stretch : HopStretch) (next : Host) : Prop where
  covers : Covers stretch.toStretch host next
  ran : host.run events = some next
  serves : ∀ i < 3, ∃ before number during after opened closed,
    events = before ++ (usageEvents number during ++ after) ∧ host.run before = some opened ∧
      Serves addr ttl timeout opened number during (.ok (stretch.replies i)) closed

/-- A trace probes its hops in turn, and anything else may happen around them. -/
inductive TraceRuns (addr : String) (timeout : ℚ) :
    Nat → Host → List HostEvent → List HopStretch → Host → Prop where
  | done {ttl : Nat} {host last : Host} {events : List HostEvent}
      (ran : host.run events = some last) : TraceRuns addr timeout ttl host events [] last
  | hop {ttl : Nat} {host opened closed last : Host} {pause events later : List HostEvent}
      {stretch : HopStretch} {stretches : List HopStretch}
      (paused : host.run pause = some opened)
      (probes : Probes addr ttl timeout opened events stretch closed)
      (rest : TraceRuns addr timeout (ttl + 1) closed later stretches last) :
      TraceRuns addr timeout ttl host (pause ++ (events ++ later)) (stretch :: stretches) last

end Tracert

end NetworkTools.Specification
