/-
This file models the ICMP header class and its checksum.
-/

import NetworkTools.Library.InputStream

namespace NetworkTools
open Library

/-- The message types of ICMP for IPv4. -/
inductive IcmpHeader.Ipv4 where
  | echoReply
  | destinationUnreachable
  | sourceQuench
  | redirect
  | echoRequest
  | timeExceeded
  | parameterProblem
  | timestampRequest
  | timestampReply
  | infoRequest
  | infoReply
  | addressRequest
  | addressReply
deriving DecidableEq

def IcmpHeader.Ipv4.toUnderlying : IcmpHeader.Ipv4 → UInt8
  | echoReply => 0
  | destinationUnreachable => 3
  | sourceQuench => 4
  | redirect => 5
  | echoRequest => 8
  | timeExceeded => 11
  | parameterProblem => 12
  | timestampRequest => 13
  | timestampReply => 14
  | infoRequest => 15
  | infoReply => 16
  | addressRequest => 17
  | addressReply => 18

/-- The message types of ICMP for IPv6. -/
inductive IcmpHeader.Ipv6 where
  | destinationUnreachable
  | packetTooBig
  | timeExceeded
  | parameterProblem
  | privateExperimentation
  | echoRequest
  | echoReply
  | multicastListenerQuery
  | multicastListenerReport
  | multicastListenerDone
  | routerSolicitation
  | routerAdvertisement
  | neighborSolicitation
  | neighborAdvertisement
  | redirectMessage
  | routerRenumbering
deriving DecidableEq

def IcmpHeader.Ipv6.toUnderlying : IcmpHeader.Ipv6 → UInt8
  | destinationUnreachable => 1
  | packetTooBig => 2
  | timeExceeded => 3
  | parameterProblem => 4
  | privateExperimentation => 100
  | echoRequest => 128
  | echoReply => 129
  | multicastListenerQuery => 130
  | multicastListenerReport => 131
  | multicastListenerDone => 132
  | routerSolicitation => 133
  | routerAdvertisement => 134
  | neighborSolicitation => 135
  | neighborAdvertisement => 136
  | redirectMessage => 137
  | routerRenumbering => 138

/-- The header stores its eight wire bytes. -/
structure IcmpHeader where
  rep : Vector UInt8 8
deriving DecidableEq

/-- The wire stores the high byte first. -/
def decode (high low : UInt8) : UInt16 := (high.toUInt16 <<< 8) + low.toUInt16

def highByte (n : UInt16) : UInt8 := (n >>> 8).toUInt8

def lowByte (n : UInt16) : UInt8 := (n &&& 0xFF).toUInt8

theorem decode_toNat (high low : UInt8) :
    (decode high low).toNat = high.toNat * 256 + low.toNat := by
  have highBound := high.toNat_lt
  have lowBound := low.toNat_lt
  simp only [decode, UInt16.toNat_add, UInt16.toNat_shiftLeft, UInt8.toNat_toUInt16,
    Nat.shiftLeft_eq]
  change (high.toNat * 2 ^ 8 % 2 ^ 16 + low.toNat) % 2 ^ 16 = _
  omega

theorem highByte_toNat (n : UInt16) : (highByte n).toNat = n.toNat / 256 := by
  have bound := n.toNat_lt
  simp only [highByte, UInt16.toNat_toUInt8, UInt16.toNat_shiftRight, Nat.shiftRight_eq_div_pow]
  change n.toNat / 2 ^ 8 % 2 ^ 8 = _
  omega

theorem lowByte_toNat (n : UInt16) : (lowByte n).toNat = n.toNat % 256 := by
  simp only [lowByte, UInt16.toNat_toUInt8, UInt16.toNat_and]
  change (n.toNat &&& 2 ^ 8 - 1) % 2 ^ 8 = _
  rw [Nat.and_two_pow_sub_one_eq_mod]
  omega

theorem highByte_decode (high low : UInt8) : highByte (decode high low) = high := by
  have bound := low.toNat_lt
  apply UInt8.toNat_inj.mp
  rw [highByte_toNat, decode_toNat]
  omega

theorem lowByte_decode (high low : UInt8) : lowByte (decode high low) = low := by
  have bound := low.toNat_lt
  apply UInt8.toNat_inj.mp
  rw [lowByte_toNat, decode_toNat]
  omega

/-- Splitting a short and decoding it gives the same short. -/
@[simp] theorem decode_split (n : UInt16) : decode (highByte n) (lowByte n) = n := by
  apply UInt16.toNat_inj.mp
  rw [decode_toNat, highByte_toNat, lowByte_toNat]
  omega

namespace IcmpHeader

/-- The default constructor fills the header with zeros. -/
def zero : IcmpHeader := ⟨Vector.replicate 8 0⟩

def type (header : IcmpHeader) : UInt8 := header.rep[0]

def code (header : IcmpHeader) : UInt8 := header.rep[1]

def checksum (header : IcmpHeader) : UInt16 := decode header.rep[2] header.rep[3]

def identifier (header : IcmpHeader) : UInt16 := decode header.rep[4] header.rep[5]

def sequenceNumber (header : IcmpHeader) : UInt16 := decode header.rep[6] header.rep[7]

def setType (header : IcmpHeader) (n : UInt8) : IcmpHeader := ⟨header.rep.set 0 n⟩

def setCode (header : IcmpHeader) (n : UInt8) : IcmpHeader := ⟨header.rep.set 1 n⟩

def setChecksum (header : IcmpHeader) (n : UInt16) : IcmpHeader :=
  ⟨(header.rep.set 2 (highByte n)).set 3 (lowByte n)⟩

def setIdentifier (header : IcmpHeader) (n : UInt16) : IcmpHeader :=
  ⟨(header.rep.set 4 (highByte n)).set 5 (lowByte n)⟩

def setSequenceNumber (header : IcmpHeader) (n : UInt16) : IcmpHeader :=
  ⟨(header.rep.set 6 (highByte n)).set 7 (lowByte n)⟩

/-- The extraction overwrites the bytes that the stream can deliver. -/
def extract (stream : InputStream) (header : IcmpHeader) : IcmpHeader × InputStream :=
  let (bytes, stream) := stream.read 8
  (⟨store header.rep 0 bytes⟩, stream)

/-- The insertion writes all eight bytes. -/
def bytes (header : IcmpHeader) : List UInt8 := header.rep.toList

/-- The loop consumes one byte or two bytes in each round. -/
def sumBody (sum : UInt32) : List UInt8 → UInt32
  | [] => sum
  | [first] => sum + (first.toUInt32 <<< 8)
  | first :: second :: rest => sumBody (sum + (first.toUInt32 <<< 8) + second.toUInt32) rest

def computeChecksum (header : IcmpHeader) (body : List UInt8) : IcmpHeader :=
  let sum : UInt32 := (header.type.toUInt32 <<< 8) + header.code.toUInt32 +
    header.identifier.toUInt32 + header.sequenceNumber.toUInt32
  let sum := sumBody sum body
  let sum := (sum >>> 16) + (sum &&& 0xFFFF)
  let sum := sum + (sum >>> 16)
  header.setChecksum (~~~sum).toUInt16

/-- The fields determine all eight bytes. -/
theorem bytes_eq (header : IcmpHeader) :
    header.bytes = [header.type, header.code, highByte header.checksum, lowByte header.checksum,
      highByte header.identifier, lowByte header.identifier,
      highByte header.sequenceNumber, lowByte header.sequenceNumber] := by
  simp only [type, code, checksum, identifier, sequenceNumber, highByte_decode, lowByte_decode]
  apply List.ext_getElem
  · simp [bytes]
  · intro index left right
    simp only [bytes, Vector.length_toList] at left
    simp only [bytes, Vector.getElem_toList]
    match index with
    | 0 | 1 | 2 | 3 | 4 | 5 | 6 | 7 => rfl

section Setters

variable (header : IcmpHeader)

@[simp] theorem setType_type (n : UInt8) : (header.setType n).type = n := by
  simp [setType, type]

@[simp] theorem setCode_fields (n : UInt8) :
    (header.setCode n).type = header.type ∧ (header.setCode n).code = n := by
  simp [setCode, type, code]

@[simp] theorem setIdentifier_fields (n : UInt16) :
    (header.setIdentifier n).type = header.type ∧ (header.setIdentifier n).code = header.code ∧
      (header.setIdentifier n).identifier = n := by
  simp [setIdentifier, type, code, identifier]

@[simp] theorem setSequenceNumber_fields (n : UInt16) :
    (header.setSequenceNumber n).type = header.type ∧
      (header.setSequenceNumber n).code = header.code ∧
      (header.setSequenceNumber n).identifier = header.identifier ∧
      (header.setSequenceNumber n).sequenceNumber = n := by
  simp [setSequenceNumber, type, code, identifier, sequenceNumber]

@[simp] theorem setChecksum_fields (n : UInt16) :
    (header.setChecksum n).type = header.type ∧ (header.setChecksum n).code = header.code ∧
      (header.setChecksum n).identifier = header.identifier ∧
      (header.setChecksum n).sequenceNumber = header.sequenceNumber ∧
      (header.setChecksum n).checksum = n := by
  simp [setChecksum, type, code, identifier, sequenceNumber, checksum]

/-- The checksum update keeps the fields that it sums. -/
theorem computeChecksum_fields (body : List UInt8) :
    (header.computeChecksum body).type = header.type ∧
      (header.computeChecksum body).code = header.code ∧
      (header.computeChecksum body).identifier = header.identifier ∧
      (header.computeChecksum body).sequenceNumber = header.sequenceNumber := by
  simp [computeChecksum]

end Setters

end IcmpHeader
end NetworkTools
