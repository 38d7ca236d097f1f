/-
This file states what the requests of one client have in common and what tells them apart.
-/

import NetworkTools.Specification.Exchange

namespace NetworkTools.Specification
open Library

/-- The request of a call that still waits for its answer. -/
def waitingRequest (client : IcmpClient) : Option EchoRequest :=
  match client.phase with
  | .waiting request _ _ => some request
  | _ => none

/-- The requests that the calls of a client have handed to its socket. -/
def sentRequests (client : IcmpClient) : List EchoRequest :=
  client.history.filterMap CallRecord.sent ++ (waitingRequest client).toList

def requestNumber (request : EchoRequest) : Nat := wordAt request.packetData 6

/-- An echo request has its type and no code. All clients share one identifier. -/
structure IsEchoRequest (request : EchoRequest) : Prop where
  type : wordAt request.packetData 0 = 8 * 256
  identifier : wordAt request.packetData 4 = 12345

/-- The request of a pinger reads back with its identity in front of its body. The sum over the
message alone is zero, which is the test of an IPv4 receiver. An ICMPv6 receiver would sum a
pseudo-header too. -/
structure IsPingRequest (ip : IpType) (identifier : UInt16) (number : Nat)
    (request : List UInt8) : Prop where
  reads : ∃ header, IcmpHeader.extract ⟨request, true⟩ .zero = (header, ⟨body, true⟩) ∧
    header.type = ip.echoRequest ∧ header.code = 0 ∧ header.identifier = identifier ∧
    header.sequenceNumber.toNat = number
  messageSum : IcmpPackage.computeChecksum request = 0

end NetworkTools.Specification
