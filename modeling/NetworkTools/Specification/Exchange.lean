/-
This file states which datagrams answer the requests of concurrent clients.
-/

import NetworkTools.Construction.IcmpClient
import NetworkTools.Specification.Message

namespace NetworkTools.Specification
open Library

/-- A call is known by its client and its place among the calls of this client. -/
structure CallId where
  client : Nat
  number : Nat
deriving DecidableEq

/-- The datagram is an echo reply with the identity of the request or an error that quotes it. -/
def AnswersRequest (request : EchoRequest) (datagram : List UInt8) : Prop :=
  Answers .useIpv4 (decode (byteAt request.packetData 4) (byteAt request.packetData 5))
    (.v4 request.destIp) (wordAt request.packetData 6) datagram

instance (request : EchoRequest) (datagram : List UInt8) :
    Decidable (AnswersRequest request datagram) :=
  inferInstanceAs (Decidable (Answers _ _ _ _ _))

/-- The request that a call has handed to its socket so far. -/
def requestOf (host : Host) (id : CallId) : Option EchoRequest :=
  match (host.client id.client).history[id.number]? with
  | some record => record.sent
  | none =>
      if id.number = (host.client id.client).history.length then
        match (host.client id.client).phase with
        | .waiting request _ _ => some request
        | _ => none
      else none

/-- Each datagram of a run has at most one cause among the calls. The cause sent its request before
the datagram arrives, and the datagram answers this request. -/
structure Provenance (events : List HostEvent) where
  cause : Nat → Option CallId
  answers : ∀ (k : Nat) datagram host id, events[k]? = some (.arrive datagram) →
    Host.start.run (events.take k) = some host → cause host.sockets.log.length = some id →
      ∃ request, requestOf host id = some request ∧ AnswersRequest request datagram

/-- No call but this one caused the datagram at this position. -/
def BelongsToNoOther (cause : Nat → Option CallId) (position : Nat) (id : CallId) : Prop :=
  ∀ other, cause position = some other → other = id

def Succeeded (record : CallRecord) : Prop :=
  ∃ result, record.result = .ok result ∧ result.success = true

/-- The call took a datagram that answers its own request and belongs to no other call. -/
def CountsOwnAnswer (cause : Nat → Option CallId) (host : Host) (id : CallId)
    (record : CallRecord) : Prop :=
  ∃ request position datagram, record.sent = some request ∧ record.received = some position ∧
    host.sockets.log[position]? = some datagram ∧ AnswersRequest request datagram ∧
    BelongsToNoOther cause position id

/-- Each successful call of each client counts its own answer. -/
def CountsOwnAnswers (cause : Nat → Option CallId) (host : Host) : Prop :=
  ∀ client number record, (host.client client).history[number]? = some record →
    Succeeded record → CountsOwnAnswer cause host ⟨client, number⟩ record

/-- The datagram that a wait takes next answers its call, unless it is too short for an address. -/
def TakesOwnAnswer (cause : Nat → Option CallId) (host : Host) : HostEvent → Prop
  | .received client =>
      ∀ request deadline startTime datagram rest,
        (host.client client).phase = .waiting request deadline startTime →
        host.sockets.queue client = some (datagram :: rest) → 16 ≤ datagram.length →
          AnswersRequest request datagram ∧
            BelongsToNoOther cause (host.sockets.position (datagram :: rest))
              ⟨client, (host.client client).history.length⟩
  | _ => True

/-- Each step of the run meets the condition in the state before it. -/
def StepsTakeOwnAnswers (cause : Nat → Option CallId) (host : Host)
    (events : List HostEvent) : Prop :=
  ∀ (k : Nat) event before, events[k]? = some event → host.run (events.take k) = some before →
    TakesOwnAnswer cause before event

/-- The packet of the first request of a client at the start of the epoch. -/
def firstPacket : List UInt8 :=
  match IcmpPackage.createEchoRequest (Vector.replicate 8 0) none 1 none with
  | .ok package => (package.toBytes.toOption).getD []
  | .error _ => []

/-- The reply of this host to the first request of a client. -/
def firstReply (source : AddressV4) : List UInt8 :=
  ipv4Prefix source localAddress ++ echoReplyTo .useIpv4 0 0 0 firstPacket

end NetworkTools.Specification
