/-
This file states what each call owes to its client, whatever calls came before it.
-/

import NetworkTools.Specification.Exchange

namespace NetworkTools.Specification
open Library

/-- The client is open and has served no call. -/
structure FreshlyOpened (host : Host) (number : Nat) : Prop where
  isOpen : host.sockets.queue number = some []
  client : host.client number = { hasSocket := true }

/-- The resolver knows each name, the socket accepts each operation of the client until the end,
nobody cancels its calls, and each datagram has a whole IP header. Other clients do as they like. -/
def Smooth (number : Nat) : HostEvent → Prop
  | .exit client => client ≠ number
  | .resolved client addresses option _ =>
      client = number → (∃ destIp others, addresses = .ok (destIp :: others)) ∧ option = .ok ()
  | .sent client outcome => client = number → outcome = .ok ()
  | .failed client => client ≠ number
  | .cancelled client _ => client ≠ number
  | .arrive datagram => 20 ≤ datagram.length
  | _ => True

/-- The request is the encoded package with this sequence number. -/
def Built (sequence : Nat) (request : EchoRequest) : Prop :=
  ∃ timestamp package,
    IcmpPackage.createEchoRequest timestamp none sequence none = .ok package ∧
      package.toBytes = .ok request.packetData

/-- The call handed its request to the socket, and it fails only without a datagram in time. -/
structure Served (sequence : Nat) (record : CallRecord) : Prop where
  sent : ∃ request, record.sent = some request ∧ Built sequence request
  timedOut : ¬ Succeeded record → record.received = none

end NetworkTools.Specification
