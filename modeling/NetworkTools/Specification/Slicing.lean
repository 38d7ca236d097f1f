/-
This file states when the Python client and the C++ receiver see one message in a datagram.
-/

import NetworkTools.Construction.IcmpClient
import NetworkTools.Specification.Answer

namespace NetworkTools
open Library Specification

/-- The stream from which the C++ receiver reads the ICMP header. -/
def icmpStream (bytes : List UInt8) : InputStream := (Ipv4Header.extract ⟨bytes, true⟩ .zero).2

/-- The bytes of one datagram as they arrive at the Python client. -/
def receivedData (bytes : List UInt8) : List UInt8 := bytes.take receiveSize

/-- Both receivers start at one place of the datagram, report one source, and read one message. -/
structure SeesSameMessage (bytes : List UInt8) (result : EchoResult) (data : List UInt8) :
    Prop where
  returned : result.responseData = some data
  place : ∃ offset, icmpStream bytes = ⟨bytes.drop offset, true⟩ ∧
    data = (receivedData bytes).drop offset
  source : inetNtoa (Ipv4Header.extract ⟨bytes, true⟩ .zero).1.sourceAddress.bytes.toList =
    .ok result.srcIp
  type : byteAt data 0 = (IcmpHeader.extract (icmpStream bytes) .zero).1.type
  code : byteAt data 1 = (IcmpHeader.extract (icmpStream bytes) .zero).1.code
  identifier : wordAt data 4 = (IcmpHeader.extract (icmpStream bytes) .zero).1.identifier.toNat
  sequenceNumber :
    wordAt data 6 = (IcmpHeader.extract (icmpStream bytes) .zero).1.sequenceNumber.toNat

end NetworkTools
