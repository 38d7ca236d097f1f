/-
This file states which packages of the Python client have an encoding, which bytes are one, and what
its checksum covers.
-/

import NetworkTools.Construction.IcmpHeader
import NetworkTools.Construction.IcmpPackage
import NetworkTools.Library.WordSum

namespace NetworkTools
open Library

namespace IcmpPackage

/-- Each field fits its place in the header. -/
structure InRange (package : IcmpPackage) : Prop where
  code : 0 ≤ package.header.code ∧ package.header.code ≤ 255
  checksum : 0 ≤ package.header.checksum ∧ package.header.checksum ≤ 65535
  identifier : 0 ≤ package.header.identifier ∧ package.header.identifier ≤ 65535
  sequence : 0 ≤ package.header.sequence ∧ package.header.sequence ≤ 65535

/-- The format consists of a known type byte, seven more header bytes, and any data. -/
def WellFormed (bytes : List UInt8) : Prop :=
  8 ≤ bytes.length ∧ ∃ type : IcmpType, bytes[0]? = some (UInt8.ofNat type.value)

/-- The checksum covers each word of the message but itself. -/
def coveredSum (package : IcmpPackage) : Nat :=
  package.header.type.value * 256 + package.header.code.toNat +
    package.header.identifier.toNat + package.header.sequence.toNat + wordSum package.data

/-- The Python package has the fields of a header, apart from its checksum. -/
def ofHeader (type : IcmpType) (header : IcmpHeader) (checksum : Int) (data : List UInt8) :
    IcmpPackage :=
  ⟨⟨type, header.code.toNat, checksum, header.identifier.toNat, header.sequenceNumber.toNat⟩, data⟩

end IcmpPackage

end NetworkTools
