/-
This file models the pinger: one raw socket, its probes, and its waits.
-/

import NetworkTools.Construction.IpHeader
import NetworkTools.Library.TimedScan

namespace NetworkTools
open Library

/-- The tag selects the IP version of a pinger. -/
inductive IpType where
  | useIpv4
  | useIpv6
deriving DecidableEq

namespace IpType

@[reducible] def Header : IpType → Type
  | useIpv4 => Ipv4Header
  | useIpv6 => Ipv6Header

instance : (ip : IpType) → DecidableEq ip.Header
  | useIpv4 => inferInstanceAs (DecidableEq Ipv4Header)
  | useIpv6 => inferInstanceAs (DecidableEq Ipv6Header)

def echoRequest : IpType → UInt8
  | useIpv4 => IcmpHeader.Ipv4.echoRequest.toUnderlying
  | useIpv6 => IcmpHeader.Ipv6.echoRequest.toUnderlying

def echoReply : IpType → UInt8
  | useIpv4 => IcmpHeader.Ipv4.echoReply.toUnderlying
  | useIpv6 => IcmpHeader.Ipv6.echoReply.toUnderlying

def timeExceeded : IpType → UInt8
  | useIpv4 => IcmpHeader.Ipv4.timeExceeded.toUnderlying
  | useIpv6 => IcmpHeader.Ipv6.timeExceeded.toUnderlying

def zeroHeader : (ip : IpType) → ip.Header
  | useIpv4 => Ipv4Header.zero
  | useIpv6 => Ipv6Header.zero

def headerLength : (ip : IpType) → ip.Header → UInt16
  | useIpv4 => Ipv4Header.headerLength
  | useIpv6 => Ipv6Header.headerLength

def sourceAddress : (ip : IpType) → ip.Header → Address
  | useIpv4, header => .v4 header.sourceAddress
  | useIpv6, header => .v6 header.sourceAddress

def timeToLive : (ip : IpType) → ip.Header → Nat
  | useIpv4 => Ipv4Header.timeToLive
  | useIpv6 => Ipv6Header.timeToLive

end IpType

/-- A datagram fits the receive buffer. The sender is the endpoint that the socket reports. -/
structure Datagram where
  bytes : List UInt8
  sender : AddressV6
  fits : bytes.length ≤ 65536
deriving DecidableEq

/-- The default entry has zero headers, length zero, and no elapsed time. -/
structure IcmpCompose (ip : IpType) where
  ipHd : ip.Header := ip.zeroHeader
  icmpHd : IcmpHeader := .zero
  length : Nat := 0
  elapsed : Int := 0
deriving DecidableEq

/-- The extraction does not look at the stream state between or after the headers. -/
def readHeaders : (ip : IpType) → InputStream → AddressV6 → ip.Header × IcmpHeader
  | .useIpv4, is, _ =>
      let (ipHdr, is) := Ipv4Header.extract is .zero
      (ipHdr, (IcmpHeader.extract is .zero).1)
  | .useIpv6, is, sender =>
      let icmpHdr := (IcmpHeader.extract is .zero).1
      (Ipv6Header.zero.setSourceAddress sender, icmpHdr)

/-- The recursion limit of one wait. -/
def recursionLimit : Nat := 256

/-- The argument `left` is the recursion limit minus the current recursion time. -/
def pingReceivePack (ip : IpType) (identifier : UInt16) (traffic : Traffic Datagram)
    (sequenceNumber timeout : Int) : Nat → Cursor → Option (IcmpCompose ip) × Cursor
  | left, cursor =>
      -- Each recursion arms a new timer and takes a new send time.
      let timeSent := cursor.clock
      match TimedScan.wait traffic timeout cursor with
      | (none, next) => (none, next)
      | (some datagram, next) =>
          let now := next.clock
          let length := datagram.bytes.length
          let is : InputStream := ⟨datagram.bytes, true⟩
          if !is.good then (none, next)
          else
            let (ipHdr, icmpHdr) := readHeaders ip is datagram.sender
            if icmpHdr.type = ip.timeExceeded then
              (some ⟨ipHdr, icmpHdr, length, now - timeSent⟩, next)
            else if icmpHdr.type = ip.echoReply then
              if icmpHdr.identifier ≠ identifier then
                match left with
                | left + 1 => pingReceivePack ip identifier traffic sequenceNumber timeout left next
                | 0 => (none, next)
              else if icmpHdr.sequenceNumber.toNat = sequenceNumber then
                (some ⟨ipHdr, icmpHdr, length, now - timeSent⟩, next)
              else
                match left with
                | left + 1 => pingReceivePack ip identifier traffic sequenceNumber timeout left next
                | 0 => (none, next)
            else (none, next)

/-- The body of each echo request. -/
def body : List UInt8 :=
  "\"Hello!\" from Asio ping.".toList.map fun character => UInt8.ofNat character.toNat

/-- The counter of type `int` loses its high bits in the header field. -/
def echoRequestHeader (ip : IpType) (identifier : UInt16) (sequenceNumber : Int) : IcmpHeader :=
  let echoRequest := IcmpHeader.zero.setType ip.echoRequest
  let echoRequest := echoRequest.setCode 0
  let echoRequest := echoRequest.setIdentifier identifier
  let echoRequest := echoRequest.setSequenceNumber (UInt16.ofInt sequenceNumber)
  echoRequest.computeChecksum body

/-- The pinger writes the header and then the body. -/
def requestBytes (ip : IpType) (identifier : UInt16) (sequenceNumber : Int) : List UInt8 :=
  (echoRequestHeader ip identifier sequenceNumber).bytes ++ body

/-- The network is what one pinger meets: its identifier, its host, and its traffic. -/
structure Network where
  identifier : UInt16
  openSocket : Except String Unit
  resolve : String → Except String Address
  setHops : Int → Except String Unit
  /-- A send takes some time or throws. -/
  send : Int → Except String Nat
  /-- The time at which the first probe starts. -/
  ready : Int
  traffic : Traffic Datagram

/-- A successful send hands the request to the socket and lets time pass. -/
def pingSendPack (ip : IpType) (network : Network) (sequenceNumber : Int) (cursor : Cursor) :
    Except String (List UInt8 × Cursor) :=
  let request := requestBytes ip network.identifier sequenceNumber
  match network.send sequenceNumber with
  | .ok delay => .ok (request, ⟨cursor.position, cursor.clock + delay⟩)
  | .error what => .error what

/-- A probe records one round of the loop: its request, its wait, and its answer. -/
structure Probe (ip : IpType) where
  destination : Address
  sequenceNumber : Int
  request : List UInt8
  began : Cursor
  answer : Option (IcmpCompose ip)
  ended : Cursor

/-- A timeout leaves the default entry. -/
def Probe.compose {ip : IpType} (probe : Probe ip) : IcmpCompose ip := probe.answer.getD {}

/-- A run records the completed rounds and the exception that ended it. -/
structure PingRun (ip : IpType) where
  probes : List (Probe ip)
  failure : Option String

/-- The loop sends one request and then waits for its answer. -/
def pingLoop (ip : IpType) (network : Network) (destination : Address) (timeout : Int) :
    Nat → Int → Cursor → PingRun ip
  | 0, _, _ => ⟨[], none⟩
  | remaining + 1, sequenceNumber, cursor =>
      match pingSendPack ip network sequenceNumber cursor with
      | .error what => ⟨[], some what⟩
      | .ok (request, began) =>
          let (answer, ended) := pingReceivePack ip network.identifier network.traffic
            sequenceNumber timeout recursionLimit began
          let rest := pingLoop ip network destination timeout remaining (sequenceNumber + 1) ended
          ⟨⟨destination, sequenceNumber, request, began, answer, ended⟩ :: rest.probes,
            rest.failure⟩

/-- The constructor opens the socket before the pinger checks its arguments. -/
def pingRun (ip : IpType) (network : Network) (dest : String) (count ttl timeout : Int) :
    PingRun ip :=
  match network.openSocket with
  | .error what => ⟨[], some what⟩
  | .ok () =>
      if count ≤ 0 ∨ ttl ≤ 0 then ⟨[], none⟩
      else
        match network.resolve dest with
        | .error what => ⟨[], some what⟩
        | .ok destination =>
            match network.setHops ttl with
            | .error what => ⟨[], some what⟩
            | .ok () => pingLoop ip network destination timeout count.toNat 0 ⟨0, network.ready⟩

/-- An exception discards the entries of the completed rounds. -/
def asyncPing (ip : IpType) (network : Network) (dest : String) (count ttl timeout : Int) :
    Except String (List (IcmpCompose ip)) :=
  let run := pingRun ip network dest count ttl timeout
  match run.failure with
  | some what => .error what
  | none => .ok (run.probes.map Probe.compose)

end NetworkTools
