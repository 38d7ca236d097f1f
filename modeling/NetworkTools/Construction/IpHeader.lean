/-
This file models the IP header classes and the addresses that they report.
-/

import NetworkTools.Construction.IcmpHeader

namespace NetworkTools
open Library

structure AddressV4 where
  bytes : Vector UInt8 4
deriving DecidableEq

/-- An IPv6 address keeps the scope of its interface. -/
structure AddressV6 where
  bytes : Vector UInt8 16
  scopeId : Nat
deriving DecidableEq

inductive Address where
  | v4 (address : AddressV4)
  | v6 (address : AddressV6)
deriving DecidableEq

/-- A default address is the unspecified IPv4 address. -/
def Address.unspecified : Address := .v4 ⟨Vector.replicate 4 0⟩

/-- The test reads the address bytes only. -/
def Address.isUnspecified : Address → Bool
  | .v4 address => address.bytes = Vector.replicate 4 0
  | .v6 address => address.bytes = Vector.replicate 16 0

/-- The header stores twenty fixed bytes and forty option bytes. -/
structure Ipv4Header where
  rep : Vector UInt8 60
deriving DecidableEq

namespace Ipv4Header

def zero : Ipv4Header := ⟨Vector.replicate 60 0⟩

def version (header : Ipv4Header) : UInt8 := (header.rep[0] >>> 4) &&& 0xF

def headerLength (header : Ipv4Header) : UInt16 := (header.rep[0] &&& 0xF).toUInt16 * 4

def typeOfService (header : Ipv4Header) : UInt8 := header.rep[1]

def totalLength (header : Ipv4Header) : UInt16 := decode header.rep[2] header.rep[3]

def identification (header : Ipv4Header) : UInt16 := decode header.rep[4] header.rep[5]

def dontFragment (header : Ipv4Header) : Bool := (header.rep[6] &&& 0x40) ≠ 0

def moreFragments (header : Ipv4Header) : Bool := (header.rep[6] &&& 0x20) ≠ 0

def fragmentOffset (header : Ipv4Header) : UInt16 := decode header.rep[6] header.rep[7] &&& 0x1FFF

def timeToLive (header : Ipv4Header) : Nat := header.rep[8].toNat

def protocol (header : Ipv4Header) : UInt8 := header.rep[9]

def headerChecksum (header : Ipv4Header) : UInt16 := decode header.rep[10] header.rep[11]

def sourceAddress (header : Ipv4Header) : AddressV4 :=
  ⟨#v[header.rep[12], header.rep[13], header.rep[14], header.rep[15]]⟩

def destinationAddress (header : Ipv4Header) : AddressV4 :=
  ⟨#v[header.rep[16], header.rep[17], header.rep[18], header.rep[19]]⟩

/-- The extraction marks the stream as failed for a wrong version or length. -/
def extract (stream : InputStream) (header : Ipv4Header) : Ipv4Header × InputStream :=
  let (bytes, stream) := stream.read 20
  let header : Ipv4Header := ⟨store header.rep 0 bytes⟩
  let stream := if header.version ≠ 4 then stream.setFail else stream
  let optionsLength : Int := header.headerLength.toNat - 20
  if optionsLength < 0 ∨ 40 < optionsLength then (header, stream.setFail)
  else
    let (options, stream) := stream.read optionsLength.toNat
    (⟨store header.rep 20 options⟩, stream)

theorem version_toNat (header : Ipv4Header) :
    header.version.toNat = header.rep[0].toNat / 16 := by
  have bound := header.rep[0].toNat_lt
  simp only [version, UInt8.toNat_and, UInt8.toNat_shiftRight, Nat.shiftRight_eq_div_pow]
  change header.rep[0].toNat / 2 ^ 4 &&& 2 ^ 4 - 1 = _
  rw [Nat.and_two_pow_sub_one_eq_mod]
  omega

theorem headerLength_toNat (header : Ipv4Header) :
    header.headerLength.toNat = header.rep[0].toNat % 16 * 4 := by
  simp only [headerLength, UInt16.toNat_mul, UInt8.toNat_toUInt16, UInt8.toNat_and]
  change (header.rep[0].toNat &&& 2 ^ 4 - 1) * 4 % 2 ^ 16 = _
  rw [Nat.and_two_pow_sub_one_eq_mod]
  omega

end Ipv4Header

/-- The header stores the forty bytes of the fixed IPv6 header. -/
structure Ipv6Header where
  rep : Vector UInt8 40
deriving DecidableEq

namespace Ipv6Header

def zero : Ipv6Header := ⟨Vector.replicate 40 0⟩

def version (header : Ipv6Header) : UInt8 := (header.rep[0] >>> 4) &&& 0xF

def trafficClass (header : Ipv6Header) : UInt8 :=
  ((header.rep[0] &&& 0xF) <<< 4) ||| ((header.rep[1] >>> 4) &&& 0xF)

def flowLabel (header : Ipv6Header) : UInt32 :=
  ((header.rep[1] &&& 0xF).toUInt32 <<< 16) ||| (header.rep[2].toUInt32 <<< 8) |||
    header.rep[3].toUInt32

/-- The accessor reads the payload length field. -/
def headerLength (header : Ipv6Header) : UInt16 := decode header.rep[4] header.rep[5]

def nextHeader (header : Ipv6Header) : UInt8 := header.rep[6]

def timeToLive (header : Ipv6Header) : Nat := header.rep[7].toNat

/-- The source address has no scope. -/
def sourceAddress (header : Ipv6Header) : AddressV6 :=
  ⟨Vector.ofFn fun index : Fin 16 => header.rep[8 + index.val], 0⟩

def destinationAddress (header : Ipv6Header) : AddressV6 :=
  ⟨Vector.ofFn fun index : Fin 16 => header.rep[24 + index.val], 0⟩

/-- The update also writes version six into the first byte. -/
def setSourceAddress (header : Ipv6Header) (address : AddressV6) : Ipv6Header :=
  let rep := store header.rep 8 address.bytes.toList
  ⟨rep.set 0 (((6 : UInt8) <<< 4) ||| (rep[0] &&& 0x0F))⟩

/-- The extraction marks the stream as failed for a wrong version. -/
def extract (stream : InputStream) (header : Ipv6Header) : Ipv6Header × InputStream :=
  let (bytes, stream) := stream.read 40
  let header : Ipv6Header := ⟨store header.rep 0 bytes⟩
  (header, if header.version ≠ 6 then stream.setFail else stream)

end Ipv6Header
end NetworkTools
