/-
This file states what a client sees of a host and of its events.
-/

import NetworkTools.Construction.IcmpClient

namespace NetworkTools
open Library

/-- What the run of one client depends on: the clock, the datagrams, its queue, and its state. -/
structure ClientView where
  clock : ℚ
  log : List (List UInt8)
  queue : Option (List (List UInt8))
  client : IcmpClient

def Host.viewOf (number : Nat) (host : Host) : ClientView :=
  ⟨host.clock, host.sockets.log, host.sockets.queue number, host.client number⟩

/-- The client of an event. The network and the clock have none. -/
def HostEvent.client? : HostEvent → Option Nat
  | .enter number => some number
  | .exit number => some number
  | .call number _ _ _ => some number
  | .resolved number _ _ _ => some number
  | .sent number _ => some number
  | .received number => some number
  | .failed number => some number
  | .expired number _ => some number
  | .cancelled number _ => some number
  | .arrive _ => none
  | .pass _ => none

/-- A client meets its own events, each datagram, and the passing of time. -/
def HostEvent.concerns (number : Nat) (event : HostEvent) : Bool :=
  event.client?.all (· = number)

end NetworkTools
