/-
This file states what a ping does from round to round and what its result owes to the rounds.
-/

import NetworkTools.Construction.Format
import NetworkTools.Construction.NetworkUtils
import NetworkTools.Library.Exchange
import NetworkTools.Specification.Reception

namespace NetworkTools
open Library Specification

section Probes

variable {ip : IpType}

/-- The wait of a round takes this arrival from the socket queue. -/
def Probe.Takes (probe : Probe ip) (traffic : Traffic Datagram)
    (arrival : Arrival Datagram) : Prop :=
  ∃ position, probe.began.position ≤ position ∧ position < probe.ended.position ∧
    traffic position = some arrival

/-- The queue position of the datagram that answers a round. -/
def Probe.origin (probe : Probe ip) : Option Nat :=
  probe.answer.map fun _ => probe.ended.position - 1

/-- The datagram that answers a round. -/
def Probe.source (probe : Probe ip) (traffic : Traffic Datagram) : Option (Arrival Datagram) :=
  probe.origin.bind traffic

/-- An echo reply of its own answers the round. -/
def Probe.replied (network : Network) (probe : Probe ip) : Bool :=
  (probe.source network.traffic).any fun arrival =>
    decide (IsEchoReply ip network.identifier probe.sequenceNumber arrival.message.bytes)

end Probes

section Rounds

/-- A round of a run: how long its send takes, and the exchange behind it. -/
structure Round (ip : IpType) where
  delay : Nat
  exchange : TimedScan.Exchange Datagram (IcmpCompose ip)

variable {ip : IpType}

/-- The wait of a round starts behind its send. -/
def Round.began (round : Round ip) (cursor : Cursor) : Cursor :=
  ⟨cursor.position, cursor.clock + round.delay⟩

def Round.ended (round : Round ip) (timeout : Int) (cursor : Cursor) : Cursor :=
  round.exchange.final timeout (round.began cursor)

/-- The probe of a round sends the request with its sequence number. -/
def Round.probe (round : Round ip) (network : Network) (destination : Address) (timeout : Int)
    (sequenceNumber : Int) (cursor : Cursor) : Probe ip where
  destination := destination
  sequenceNumber := sequenceNumber
  request := requestBytes ip network.identifier sequenceNumber
  began := round.began cursor
  answer := (round.exchange.outcome timeout (round.began cursor)).map fun found =>
    found.1.withElapsed found.2
  ended := round.ended timeout cursor

/-- The network plays each round behind the one before it. -/
def Plays (network : Network) (timeout : Int) : Int → Cursor → List (Round ip) → Prop
  | _, _, [] => True
  | sequenceNumber, cursor, round :: rounds =>
      network.send sequenceNumber = .ok round.delay ∧
        round.exchange.PlayedBy (judge ip network.identifier sequenceNumber) network.traffic timeout
          recursionLimit (round.began cursor) ∧
        Plays network timeout (sequenceNumber + 1) (round.ended timeout cursor) rounds

def probesOf (network : Network) (destination : Address) (timeout : Int) :
    Int → Cursor → List (Round ip) → List (Probe ip)
  | _, _, [] => []
  | sequenceNumber, cursor, round :: rounds =>
      round.probe network destination timeout sequenceNumber cursor ::
        probesOf network destination timeout (sequenceNumber + 1) (round.ended timeout cursor)
          rounds

/-- A run without a failure plays all its rounds. Otherwise the send behind the last round fails. -/
def EndsBehind (network : Network) (remaining : Nat) (sequenceNumber : Int) (played : Nat) :
    Option String → Prop
  | none => played = remaining
  | some what => played < remaining ∧ network.send (sequenceNumber + played) = .error what

/-- The rounds tell all that a run does. -/
structure Transcribes (network : Network) (destination : Address) (timeout : Int)
    (remaining : Nat) (sequenceNumber : Int) (cursor : Cursor) (run : PingRun ip)
    (rounds : List (Round ip)) : Prop where
  played : Plays network timeout sequenceNumber cursor rounds
  probes : run.probes = probesOf network destination timeout sequenceNumber cursor rounds
  ending : EndsBehind network remaining sequenceNumber rounds.length run.failure

/-- The result list shows each round of a run or its failure alone. -/
def entriesOf (network : Network) (destination : Address) (timeout : Int)
    (rounds : List (Round ip)) : Option String → List PingEntry
  | some what => [.error what]
  | none => (probesOf network destination timeout 0 ⟨0, network.ready⟩ rounds).map
      fun probe => pingEntry ip probe.compose

end Rounds

section Pings

/-- The socket opens, the name resolves, and the hop limit is set. -/
def Network.Prepared (network : Network) (dest : String) (ttl : Int) : Prop :=
  network.openSocket = .ok () ∧ (∃ destination, network.resolve dest = .ok destination) ∧
    network.setHops ttl = .ok ()

/-- The rounds that a ping plays behind its preparations, up to one of its requests. -/
structure PlaysPing {ip : IpType} (network : Network) (dest : String) (count ttl timeout : Int)
    (destination : Address) (rounds : List (Round ip)) : Prop where
  hops : 0 < ttl
  opened : network.openSocket = .ok ()
  resolved : network.resolve dest = .ok destination
  configured : network.setHops ttl = .ok ()
  within : (rounds.length : Int) ≤ count
  played : Plays network timeout 0 ⟨0, network.ready⟩ rounds

/-- The number of datagrams that these rounds take from the queue. -/
def takenBy {ip : IpType} (rounds : List (Round ip)) : Nat :=
  (rounds.map fun round => round.exchange.taken.length).sum

/-- The wait behind this request of a ping takes the datagram at this position of the queue. -/
def PingTakes (ip : IpType) (network : Network) (dest : String) (count ttl timeout : Int)
    (destination : Address) (index position : Nat) (arrival : Arrival Datagram) : Prop :=
  ∃ rounds : List (Round ip), PlaysPing network dest count ttl timeout destination rounds ∧
    ∃ (round : Round ip) (offset : Nat), rounds[index]? = some round ∧
      round.exchange.taken[offset]? = some arrival ∧
      position = takenBy (rounds.take index) + offset

/-- The report counts the requests and the answers of the run and keeps each answer. -/
def ReportsRun (ip : IpType) (network : Network) (dest : String) (count ttl timeout : Int) : Prop :=
  (formatPingResult (ping ip network dest count ttl timeout)).transmitted =
      (pingRun ip network dest count ttl (ofMilliseconds timeout)).probes.length ∧
    (formatPingResult (ping ip network dest count ttl timeout)).received =
      (pingRun ip network dest count ttl (ofMilliseconds timeout)).probes.countP
        (fun probe => probe.answer.isSome) ∧
    ∀ (index : Nat) probe,
      (pingRun ip network dest count ttl (ofMilliseconds timeout)).probes[index]? = some probe →
      probe.answer.isSome → ∃ success, pingEntry ip probe.compose = .success success ∧
        (ping ip network dest count ttl timeout)[index]? = some (.success success)

end Pings

end NetworkTools
