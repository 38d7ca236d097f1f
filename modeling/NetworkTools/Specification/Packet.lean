/-
This file specifies the wire formats of the IP headers.
-/

import NetworkTools.Construction.IpHeader
import NetworkTools.Library.BitLayout

namespace NetworkTools.Specification
open Library

section Ipv4

/-- The fields are the version, the header length in words, the type of service, the total length,
the identification, three flags, the fragment offset, the time to live, the protocol, the checksum,
and the addresses. -/
def ipv4Layout : List Nat := [4, 4, 8, 16, 16, 1, 1, 1, 13, 8, 8, 16, 32, 32]

/-- The options of an IPv4 header are at most ten words. -/
structure Ipv4Packet where
  typeOfService : UInt8
  totalLength : UInt16
  identification : UInt16
  reserved : Bool
  dontFragment : Bool
  moreFragments : Bool
  fragmentOffset : Fin (2 ^ 13)
  timeToLive : UInt8
  protocol : UInt8
  headerChecksum : UInt16
  sourceAddress : AddressV4
  destinationAddress : AddressV4
  options : List UInt8
  inWords : 4 ∣ options.length
  atMostTen : options.length ≤ 40

namespace Ipv4Packet

def values (packet : Ipv4Packet) : List Nat :=
  [4, 5 + packet.options.length / 4, packet.typeOfService.toNat, packet.totalLength.toNat,
    packet.identification.toNat, packet.reserved.toNat, packet.dontFragment.toNat,
    packet.moreFragments.toNat, packet.fragmentOffset.val, packet.timeToLive.toNat,
    packet.protocol.toNat, packet.headerChecksum.toNat,
    ofBigEndian packet.sourceAddress.bytes.toList,
    ofBigEndian packet.destinationAddress.bytes.toList]

def wire (packet : Ipv4Packet) : List UInt8 :=
  encodeFields ipv4Layout packet.values ++ packet.options

/-- The header that stores this packet. -/
def header (packet : Ipv4Packet) : Ipv4Header := ⟨store Ipv4Header.zero.rep 0 packet.wire⟩

end Ipv4Packet

/-- The accessors of a header read the fields of a packet. -/
structure ShowsIpv4 (header : Ipv4Header) (packet : Ipv4Packet) : Prop where
  version : header.version = 4
  headerLength : header.headerLength.toNat = 20 + packet.options.length
  typeOfService : header.typeOfService = packet.typeOfService
  totalLength : header.totalLength = packet.totalLength
  identification : header.identification = packet.identification
  dontFragment : header.dontFragment = packet.dontFragment
  moreFragments : header.moreFragments = packet.moreFragments
  fragmentOffset : header.fragmentOffset.toNat = packet.fragmentOffset.val
  timeToLive : header.timeToLive = packet.timeToLive.toNat
  protocol : header.protocol = packet.protocol
  headerChecksum : header.headerChecksum = packet.headerChecksum
  sourceAddress : header.sourceAddress = packet.sourceAddress
  destinationAddress : header.destinationAddress = packet.destinationAddress

end Ipv4

section Ipv6

/-- The fields are the version, the traffic class, the flow label, the payload length, the next
header, the hop limit, and the addresses. -/
def ipv6Layout : List Nat := [4, 8, 20, 16, 8, 8, 128, 128]

structure Ipv6Packet where
  trafficClass : UInt8
  flowLabel : Fin (2 ^ 20)
  payloadLength : UInt16
  nextHeader : UInt8
  hopLimit : UInt8
  sourceAddress : Vector UInt8 16
  destinationAddress : Vector UInt8 16

namespace Ipv6Packet

def values (packet : Ipv6Packet) : List Nat :=
  [6, packet.trafficClass.toNat, packet.flowLabel.val, packet.payloadLength.toNat,
    packet.nextHeader.toNat, packet.hopLimit.toNat, ofBigEndian packet.sourceAddress.toList,
    ofBigEndian packet.destinationAddress.toList]

def wire (packet : Ipv6Packet) : List UInt8 := encodeFields ipv6Layout packet.values

/-- The header that stores this packet. -/
def header (packet : Ipv6Packet) : Ipv6Header := ⟨store Ipv6Header.zero.rep 0 packet.wire⟩

end Ipv6Packet

/-- The accessors of a header read the fields of a packet. -/
structure ShowsIpv6 (header : Ipv6Header) (packet : Ipv6Packet) : Prop where
  version : header.version = 6
  trafficClass : header.trafficClass = packet.trafficClass
  flowLabel : header.flowLabel.toNat = packet.flowLabel.val
  payloadLength : header.headerLength = packet.payloadLength
  nextHeader : header.nextHeader = packet.nextHeader
  hopLimit : header.timeToLive = packet.hopLimit.toNat
  sourceAddress : header.sourceAddress = ⟨packet.sourceAddress, 0⟩
  destinationAddress : header.destinationAddress = ⟨packet.destinationAddress, 0⟩

end Ipv6

end NetworkTools.Specification
