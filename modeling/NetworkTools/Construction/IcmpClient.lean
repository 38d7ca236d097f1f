/-
This file models the asynchronous ICMP client: its calls, their steps, and the sockets of one host.
-/

import NetworkTools.Construction.IcmpPackage
import NetworkTools.Construction.IpHeader
import NetworkTools.Library.Broadcast
import Mathlib.Algebra.Order.Field.Rat

namespace NetworkTools
open Library

/-- The tuple that a call returns. -/
structure EchoResult where
  srcIp : String
  success : Bool
  responseTime : ℚ
  responseData : Option (List UInt8)
deriving DecidableEq

/-- A call hides each exception and each timeout behind the same tuple. -/
def EchoResult.failure : EchoResult := ⟨"", false, 0, none⟩

/-- The conversion accepts exactly four bytes. -/
def inetNtoa (packed : List UInt8) : Except String String :=
  if packed.length = 4 then .ok (".".intercalate (packed.map fun byte => toString byte.toNat))
  else .error "packed IP wrong length"

/-- A client receives at most this many bytes of a datagram. -/
def receiveSize : Nat := 1024

/-- The response is read without a look at its ICMP message. -/
def echoResponse (datagram : List UInt8) (startTime endTime : ℚ) : EchoResult :=
  let data := datagram.take receiveSize
  let responseTime := (endTime - startTime) * 1000
  let ipHeader := data.take 20
  match inetNtoa ((ipHeader.take 16).drop 12) with
  | .error _ => .failure
  | .ok srcIp => ⟨srcIp, true, responseTime, some (data.drop 20)⟩

/-- The request of a call: its destination and its packet. -/
structure EchoRequest where
  destIp : AddressV4
  packetData : List UInt8
deriving DecidableEq

/-- A call awaits the resolver, then the send, then a datagram under a timer. -/
inductive Phase where
  | idle
  | resolving (host : String) (ttl : Int) (timeout : Option ℚ)
  | sending (request : EchoRequest) (timeout : Option ℚ) (startTime : ℚ)
  | waiting (request : EchoRequest) (deadline : Option ℚ) (startTime : ℚ)
deriving DecidableEq

/-- A cancellation is no `Exception`, so that no handler of a call or of the manager stops it. -/
inductive CallError where
  | exception (text : String)
  | cancelled
deriving DecidableEq

/-- A finished call with the request that it sent, the datagram that it received, the datagram that
was lost with its wait, and what it returned or raised. -/
structure CallRecord where
  sent : Option EchoRequest
  received : Option Nat
  lost : Option Nat
  result : Except CallError EchoResult

/-- The socket attribute is set on entry and stays set when the exit closes the socket. -/
structure IcmpClient where
  hasSocket : Bool := false
  sequence : Int := 0
  phase : Phase := .idle
  history : List CallRecord := []

namespace IcmpClient

def finish (client : IcmpClient) (sent : Option EchoRequest) (received lost : Option Nat)
    (result : Except CallError EchoResult) : IcmpClient :=
  { client with phase := .idle, history := client.history ++ [⟨sent, received, lost, result⟩] }

/-- The counter moves before the package is built. The request takes no identifier of its client. -/
def prepare (client : IcmpClient) (destIp : AddressV4) (timestamp : Vector UInt8 8)
    (timeout : Option ℚ) (clock : ℚ) : IcmpClient :=
  let client := { client with sequence := client.sequence + 1 }
  match IcmpPackage.createEchoRequest timestamp none client.sequence none with
  | .error _ => client.finish none none none (.ok .failure)
  | .ok package =>
      match package.toBytes with
      | .error _ => client.finish none none none (.ok .failure)
      | .ok packetData => { client with phase := .sending ⟨destIp, packetData⟩ timeout clock }

end IcmpClient

/-- What happens at a host. The resolver, the socket option, the send, and the receive can raise. A
timer or a cancellation can also come when the awaited operation is done and its call has not been
resumed yet. The outcome of the operation is lost then. -/
inductive HostEvent where
  | enter (client : Nat)
  | exit (client : Nat)
  | call (client : Nat) (host : String) (ttl : Int) (timeout : Option ℚ)
  | resolved (client : Nat) (addresses : Except String (List AddressV4))
      (option : Except String Unit) (timestamp : Vector UInt8 8)
  | sent (client : Nat) (outcome : Except String Unit)
  | received (client : Nat)
  | failed (client : Nat)
  | expired (client : Nat) (done : Bool)
  | cancelled (client : Nat) (done : Bool)
  | arrive (datagram : List UInt8)
  | pass (duration : ℚ)

/-- The clients of a host share its clock and its incoming datagrams. -/
structure Host where
  clock : ℚ
  sockets : Broadcast (List UInt8)
  client : Nat → IcmpClient

namespace Host

def start : Host := ⟨0, .empty, fun _ => {}⟩

def setClient (host : Host) (number : Nat) (client : IcmpClient) : Host :=
  { host with client := Function.update host.client number client }

/-- A call leaves its wait without a datagram. A receive that is done has taken one off the
socket. -/
def leave (host : Host) (number : Nat) (request : EchoRequest) (done : Bool)
    (result : Except CallError EchoResult) : Option Host :=
  match done, host.sockets.queue number with
  | false, _ =>
      some (host.setClient number ((host.client number).finish (some request) none none result))
  | true, some (datagram :: rest) =>
      some (setClient { host with sockets := host.sockets.drop number } number
        ((host.client number).finish (some request) none
          (some (host.sockets.position (datagram :: rest))) result))
  | true, _ => none

/-- One step of a client between two of its awaits, or one event of the network. A client serves
one call at a time. -/
def step (host : Host) : HostEvent → Option Host
  | .enter number =>
      match host.sockets.queue number with
      | none =>
          some (setClient { host with sockets := host.sockets.subscribe number } number
            { host.client number with hasSocket := true })
      | some _ => none
  | .exit number =>
      match (host.client number).phase with
      | .idle => some { host with sockets := host.sockets.unsubscribe number }
      | _ => none
  | .call number name ttl timeout =>
      match (host.client number).phase, (host.client number).hasSocket with
      | .idle, false =>
          some (host.setClient number
            ((host.client number).finish none none none (.error (.exception ""))))
      | .idle, true =>
          some (host.setClient number
            { host.client number with phase := .resolving name ttl timeout })
      | _, _ => none
  | .resolved number addresses option timestamp =>
      match (host.client number).phase with
      | .resolving _ _ timeout =>
          -- A closed socket refuses the option.
          match addresses, option, host.sockets.queue number with
          | .ok (destIp :: _), .ok (), some _ =>
              some (host.setClient number
                ((host.client number).prepare destIp timestamp timeout host.clock))
          | _, _, _ =>
              some (host.setClient number
                ((host.client number).finish none none none (.ok .failure)))
      | _ => none
  | .sent number outcome =>
      match (host.client number).phase, outcome with
      | .sending request timeout startTime, .ok () =>
          some (host.setClient number { host.client number with
            phase := .waiting request (timeout.map (host.clock + ·)) startTime })
      | .sending _ _ _, .error _ =>
          some (host.setClient number ((host.client number).finish none none none (.ok .failure)))
      | _, _ => none
  | .received number =>
      match (host.client number).phase, host.sockets.queue number with
      | .waiting request _ startTime, some (datagram :: rest) =>
          some (setClient { host with sockets := host.sockets.drop number } number
            ((host.client number).finish (some request)
              (some (host.sockets.position (datagram :: rest))) none
              (.ok (echoResponse datagram startTime host.clock))))
      | _, _ => none
  | .failed number =>
      match (host.client number).phase with
      | .waiting request _ _ =>
          some (host.setClient number
            ((host.client number).finish (some request) none none (.ok .failure)))
      | _ => none
  | .expired number done =>
      match (host.client number).phase with
      | .waiting request (some deadline) _ =>
          if deadline ≤ host.clock then host.leave number request done (.ok .failure) else none
      | _ => none
  | .cancelled number done =>
      match (host.client number).phase with
      | .idle => none
      | .resolving _ _ _ =>
          some (host.setClient number
            ((host.client number).finish none none none (.error .cancelled)))
      | .sending request _ _ =>
          some (host.setClient number
            ((host.client number).finish (if done then some request else none) none none
              (.error .cancelled)))
      | .waiting request _ _ => host.leave number request done (.error .cancelled)
  | .arrive datagram => some { host with sockets := host.sockets.publish datagram }
  | .pass duration =>
      if 0 ≤ duration then some { host with clock := host.clock + duration } else none

/-- A run takes its events in turn. -/
def run (host : Host) : List HostEvent → Option Host
  | [] => some host
  | event :: events => (host.step event).bind fun next => next.run events

end Host
end NetworkTools
