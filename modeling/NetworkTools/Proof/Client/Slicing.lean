/-
This file compares the ICMP message that the Python client returns with the one that the C++
receiver reads.
-/

import NetworkTools.Proof.Receive.Extraction
import NetworkTools.Specification.Message
import NetworkTools.Specification.Slicing

namespace NetworkTools
open Library Specification

section Receivers

variable {bytes : List UInt8}

theorem readable_of_complete (complete : Complete .useIpv4 bytes) : Ipv4Readable bytes := by
  have whole := (complete_iff .useIpv4 bytes).mp complete
  by_contra unreadable
  rw [icmpPart, if_neg unreadable] at whole
  exact absurd whole (by decide)

theorem icmpStream_eq (complete : Complete .useIpv4 bytes) :
    icmpStream bytes = ⟨bytes.drop (ipv4HeaderSize bytes), true⟩ :=
  ipv4Extract_readable bytes (readable_of_complete complete)

/-- The four bytes of the source address have fixed places. -/
theorem sourceAddress_slice (enough : 16 ≤ bytes.length) :
    (Ipv4Header.extract ⟨bytes, true⟩ .zero).1.sourceAddress.bytes.toList =
      (((receivedData bytes).take 20).take 16).drop 12 := by
  have fixed (index : Nat) (inside : index < 20) (present : index < bytes.length) :
      (Ipv4Header.extract ⟨bytes, true⟩ .zero).1.rep[index] = bytes[index] := by
    rw [ipv4Extract_fixed bytes index inside, byteAt, List.getElem?_eq_getElem present,
      Option.getD_some]
  apply List.ext_getElem
  · simp only [Vector.length_toList, List.length_drop, List.length_take, receivedData,
      receiveSize]
    omega
  · intro index inside _
    rw [Vector.length_toList] at inside
    simp only [List.getElem_drop, List.getElem_take, receivedData]
    have place : index = 0 ∨ index = 1 ∨ index = 2 ∨ index = 3 := by omega
    rcases place with rfl | rfl | rfl | rfl
    · exact fixed 12 (by decide) (by omega)
    · exact fixed 13 (by decide) (by omega)
    · exact fixed 14 (by decide) (by omega)
    · exact fixed 15 (by decide) (by omega)

/-- The client returns what follows the first twenty bytes. -/
theorem echoResponse_of_complete (complete : Complete .useIpv4 bytes) (startTime endTime : ℚ) :
    inetNtoa (Ipv4Header.extract ⟨bytes, true⟩ .zero).1.sourceAddress.bytes.toList =
        .ok (echoResponse bytes startTime endTime).srcIp ∧
      (echoResponse bytes startTime endTime).responseData =
        some ((receivedData bytes).drop 20) := by
  have enough : 16 ≤ bytes.length := by
    obtain ⟨_, low, high⟩ := complete
    omega
  have four : (((receivedData bytes).take 20).take 16).drop 12 =
      (Ipv4Header.extract ⟨bytes, true⟩ .zero).1.sourceAddress.bytes.toList :=
    (sourceAddress_slice enough).symm
  rw [receivedData] at four
  rw [echoResponse]
  simp only [four, inetNtoa, Vector.length_toList, if_pos]
  exact ⟨trivial, rfl⟩

/-- The places of the two receivers agree exactly on a header without options. -/
theorem place_iff (complete : Complete .useIpv4 bytes) :
    (∃ offset, icmpStream bytes = ⟨bytes.drop offset, true⟩ ∧
        (receivedData bytes).drop 20 = (receivedData bytes).drop offset) ↔
      (byteAt bytes 0).toNat % 16 = 5 := by
  have ⟨_, low, high⟩ := complete
  have size : ipv4HeaderSize bytes = 4 * ((byteAt bytes 0).toNat % 16) := rfl
  rw [icmpStream_eq complete]
  apply Iff.intro
  · intro same
    obtain ⟨offset, sameUnread, sameData⟩ := same
    have unread := congrArg List.length (InputStream.mk.inj sameUnread).1
    have data := congrArg List.length sameData
    simp only [List.length_drop, receivedData, List.length_take, receiveSize] at unread data
    omega
  · intro five
    refine ⟨20, ?_, rfl⟩
    rw [size, five]

/-- Without options the returned data read like the ICMP header of the C++ receiver. -/
theorem returned_getElem (complete : Complete .useIpv4 bytes)
    (five : (byteAt bytes 0).toNat % 16 = 5) (index : Nat) (inside : index < 8) :
    byteAt ((receivedData bytes).drop 20) index =
      (IcmpHeader.extract (icmpStream bytes) .zero).1.rep[index] := by
  have size : ipv4HeaderSize bytes = 20 := by rw [ipv4HeaderSize, five]
  rw [icmpStream_eq complete, icmpExtract_getElem _ index inside, size]
  have early : 20 + index < receiveSize := by
    rw [receiveSize]
    omega
  rw [byteAt, byteAt, receivedData, List.getElem?_drop, List.getElem?_drop,
    List.getElem?_take_of_lt early]

end Receivers

/-- The two receivers see the same message of a well-formed datagram exactly when its header has no
options. -/
theorem seesSameMessage_iff (bytes : List UInt8) (startTime endTime : ℚ)
    (complete : Complete .useIpv4 bytes) :
    (∃ data, SeesSameMessage bytes (echoResponse bytes startTime endTime) data) ↔
      (byteAt bytes 0).toNat % 16 = 5 := by
  obtain ⟨source, returned⟩ := echoResponse_of_complete complete startTime endTime
  rw [← place_iff complete]
  apply Iff.intro
  · intro sees
    obtain ⟨data, same⟩ := sees
    obtain ⟨offset, here, isData⟩ := same.place
    obtain rfl := Option.some.inj (returned.symm.trans same.returned)
    exact ⟨offset, here, isData⟩
  · intro place
    have five := (place_iff complete).mp place
    have read := returned_getElem complete five
    refine ⟨_, returned, place, source, read 0 (by decide), read 1 (by decide), ?_, ?_⟩
    · rw [wordAt, read 4 (by decide), read 5 (by decide), IcmpHeader.identifier, decode_toNat]
    · rw [wordAt, read 6 (by decide), read 7 (by decide), IcmpHeader.sequenceNumber, decode_toNat]

/-- The reply of a host without IP options. -/
def plainReply : List UInt8 :=
  ipv4Prefix hostAddress localAddress ++ [0, 0, 0, 0, 0, 7, 0, 1]

theorem seesSameMessage_plain :
    ∃ data, SeesSameMessage plainReply (echoResponse plainReply 0 1) data :=
  (seesSameMessage_iff plainReply 0 1 (by decide +kernel)).mpr (by decide +kernel)

/-- The same reply behind a header with one word of options. -/
def optionReply : List UInt8 :=
  (ipv4Prefix hostAddress localAddress).set 0 0x46 ++ [1, 1, 1, 1] ++ [0, 0, 0, 0, 0, 7, 0, 1]

/-- The client takes the options for the start of the message, which is an echo reply. -/
theorem seesSameMessage_options :
    Complete .useIpv4 optionReply ∧
      (IcmpHeader.extract (icmpStream optionReply) .zero).1.type = IpType.useIpv4.echoReply ∧
      (echoResponse optionReply 0 1).responseData =
        some ([1, 1, 1, 1] ++ [0, 0, 0, 0, 0, 7, 0, 1]) ∧
      ¬ ∃ data, SeesSameMessage optionReply (echoResponse optionReply 0 1) data := by
  have isReply : (IcmpHeader.extract (icmpStream optionReply) .zero).1.type = 0 := by
    decide +kernel
  have returned : (echoResponse optionReply 0 1).responseData =
      some ([1, 1, 1, 1] ++ [0, 0, 0, 0, 0, 7, 0, 1]) := by
    decide +kernel
  refine ⟨by decide +kernel, isReply, returned, fun sees => ?_⟩
  obtain ⟨data, same⟩ := sees
  have differs := same.type
  obtain rfl := Option.some.inj (returned.symm.trans same.returned)
  rw [isReply] at differs
  exact absurd differs (by decide)

end NetworkTools
