/-
This file states the messages that a network sends in answer to a request.
-/

import NetworkTools.Specification.Answer

namespace NetworkTools.Specification
open Library

/-- A raw IPv4 socket delivers a whole IP header. A raw IPv6 socket delivers none. -/
def WellFormedPrefix : IpType → List UInt8 → Prop
  | .useIpv4, header =>
      ipv4Version header = 4 ∧ 5 ≤ (byteAt header 0).toNat % 16 ∧
        header.length = ipv4HeaderSize header
  | .useIpv6, header => header = []

instance : (ip : IpType) → (header : List UInt8) → Decidable (WellFormedPrefix ip header)
  | .useIpv4, _ => inferInstanceAs (Decidable (_ ∧ _ ∧ _))
  | .useIpv6, _ => inferInstanceAs (Decidable (_ = _))

/-- A host turns a request into a reply and keeps its identity and its payload. -/
def echoReplyTo (ip : IpType) (code checksumHigh checksumLow : UInt8)
    (request : List UInt8) : List UInt8 :=
  ip.echoReply :: code :: checksumHigh :: checksumLow :: request.drop 4

/-- A minimal IPv4 header carries ICMP from one host to another. -/
def ipv4Prefix (source destination : AddressV4) : List UInt8 :=
  [0x45, 0, 0, 0, 0, 0, 0, 0, 64, 1, 0, 0] ++ source.bytes.toList ++ destination.bytes.toList

/-- A router returns the packet that it dropped behind its own ICMP header. -/
def timeExceededFor (ip : IpType) (packet : List UInt8) : List UInt8 :=
  [ip.timeExceeded, 0, 0, 0, 0, 0, 0, 0] ++ packet

def localAddress : AddressV4 := ⟨#v[10, 0, 0, 2]⟩

def hostAddress : AddressV4 := ⟨#v[203, 0, 113, 9]⟩

def routerAddress : AddressV4 := ⟨#v[198, 51, 100, 1]⟩

/-- An IPv4 pinger does not use the endpoint that the socket reports. -/
def unusedSender : AddressV6 := ⟨Vector.replicate 16 0, 0⟩

theorem requestBytes_length (ip : IpType) (identifier : UInt16) (sequenceNumber : Int) :
    (requestBytes ip identifier sequenceNumber).length = 32 := by
  rw [requestBytes, List.length_append, IcmpHeader.bytes, Vector.length_toList]
  decide

/-- The host answers a probe with this reply. -/
def replyDatagram (source : AddressV4) (identifier : UInt16) (sequenceNumber : Int) : Datagram where
  bytes := ipv4Prefix source localAddress ++
    echoReplyTo .useIpv4 0 0 0 (requestBytes .useIpv4 identifier sequenceNumber)
  sender := unusedSender
  fits := by simp [ipv4Prefix, echoReplyTo, requestBytes_length]

/-- A loopback socket also receives the request itself. -/
def requestDatagram (identifier : UInt16) (sequenceNumber : Int) : Datagram where
  bytes := requestBytes .useIpv6 identifier sequenceNumber
  sender := unusedSender
  fits := by rw [requestBytes_length]; decide

def replyDatagramV6 (identifier : UInt16) (sequenceNumber : Int) : Datagram where
  bytes := echoReplyTo .useIpv6 0 0 0 (requestBytes .useIpv6 identifier sequenceNumber)
  sender := unusedSender
  fits := by simp [echoReplyTo, requestBytes_length]

/-- A router on the way drops a probe to the host and says so. -/
def exceededDatagram (router : AddressV4) (identifier : UInt16) (sequenceNumber : Int) :
    Datagram where
  bytes := ipv4Prefix router localAddress ++ timeExceededFor .useIpv4
    (ipv4Prefix localAddress hostAddress ++ requestBytes .useIpv4 identifier sequenceNumber)
  sender := unusedSender
  fits := by simp [ipv4Prefix, timeExceededFor, requestBytes_length]

/-- Every operation succeeds at once, and the socket receives these arrivals. -/
def deliveringNetwork (identifier : UInt16) (arrivals : List (Arrival Datagram)) : Network where
  identifier := identifier
  openSocket := .ok ()
  resolve _ := .ok (.v4 hostAddress)
  setHops _ := .ok ()
  send _ := .ok 0
  ready := 0
  traffic := TimedScan.ofList arrivals

section Prefix

variable {ip : IpType} {header : List UInt8}

/-- The ICMP part of a datagram is what follows its well-formed prefix. -/
theorem icmpPart_append (wellFormed : WellFormedPrefix ip header) (message : List UInt8) :
    icmpPart ip (header ++ message) = message := by
  cases ip with
  | useIpv4 =>
      rcases wellFormed with ⟨version, words, length⟩
      have size : 20 ≤ ipv4HeaderSize header := by
        simp only [ipv4HeaderSize]
        omega
      have first : byteAt (header ++ message) 0 = byteAt header 0 := by
        rw [byteAt, List.getElem?_append_left (by omega), byteAt]
      have sameSize : ipv4HeaderSize (header ++ message) = ipv4HeaderSize header := by
        rw [ipv4HeaderSize, first, ipv4HeaderSize]
      have readable : Ipv4Readable (header ++ message) := by
        refine ⟨?_, by omega, by rw [sameSize, List.length_append]; omega⟩
        rw [ipv4Version, first]
        exact version
      rw [icmpPart, if_pos readable, sameSize, ← length, List.drop_left]
  | useIpv6 =>
      rw [show header = [] from wellFormed]
      rfl

end Prefix

end NetworkTools.Specification
