/-
This file proves that the IPv6 extraction accepts exactly the wire format and reads its fields, and
that the source address update keeps the other fields.
-/

import NetworkTools.Proof.Packet.Fields

namespace NetworkTools
open Library Specification

section Readings

/-- The readings of a header are its fields. -/
theorem showsIpv6_of_readings {header : Ipv6Header} {packet : Ipv6Packet}
    (readings : ipv6Readings header = packet.values) : ShowsIpv6 header packet := by
  simp only [ipv6Readings, Ipv6Packet.values, List.cons.injEq, and_true] at readings
  obtain ⟨version, trafficClass, flowLabel, payloadLength, nextHeader, hopLimit, source,
    destination⟩ := readings
  have address {left right : Vector UInt8 16}
      (same : ofBigEndian left.toList = ofBigEndian right.toList) : left = right :=
    Vector.toList_inj.mp
      (ofBigEndian_inj (by rw [Vector.length_toList, Vector.length_toList]) same)
  exact {
    version := UInt8.toNat_inj.mp version
    trafficClass := UInt8.toNat_inj.mp trafficClass
    flowLabel := flowLabel
    payloadLength := UInt16.toNat_inj.mp payloadLength
    nextHeader := UInt8.toNat_inj.mp nextHeader
    hopLimit := hopLimit
    sourceAddress := congrArg (AddressV6.mk · 0) (address source)
    destinationAddress := congrArg (AddressV6.mk · 0) (address destination) }

theorem flowLabel_lt (header : Ipv6Header) : header.flowLabel.toNat < 2 ^ 20 := by
  rw [flowLabel_toNat]
  have high := (byteAt header.rep.toList 1).toNat_lt
  have middle := (byteAt header.rep.toList 2).toNat_lt
  have low := (byteAt header.rep.toList 3).toNat_lt
  omega

/-- The packet that the accessors of a header read. -/
def ipv6PacketOf (header : Ipv6Header) : Ipv6Packet where
  trafficClass := header.trafficClass
  flowLabel := ⟨header.flowLabel.toNat, flowLabel_lt header⟩
  payloadLength := header.headerLength
  nextHeader := header.nextHeader
  hopLimit := UInt8.ofNat header.timeToLive
  sourceAddress := header.sourceAddress.bytes
  destinationAddress := header.destinationAddress.bytes

/-- A header of version six stores the packet that its accessors read. -/
theorem ipv6PacketOf_wire {header : Ipv6Header} (six : header.version = 6) :
    (ipv6PacketOf header).wire = header.rep.toList := by
  have values : (ipv6PacketOf header).values = ipv6Readings header := by
    rw [ipv6Readings, six, Ipv6Packet.values, ipv6PacketOf, Ipv6Header.timeToLive,
      UInt8.ofNat_toNat]
    rfl
  have whole : 8 * header.rep.toList.length = ipv6Layout.sum := by
    rw [Vector.length_toList]
    rfl
  rw [Ipv6Packet.wire, values, ← decodeFields_ipv6, encodeFields_decodeFields whole]

theorem ipv6PacketOf_header {header : Ipv6Header} (six : header.version = 6) :
    (ipv6PacketOf header).header = header := by
  rw [Ipv6Packet.header, ipv6PacketOf_wire six, store_toList]

end Readings

namespace Specification.Ipv6Packet

variable (packet : Ipv6Packet)

theorem values_fits : Fits ipv6Layout packet.values := by
  have address (bytes : Vector UInt8 16) : ofBigEndian bytes.toList < 2 ^ 128 := by
    have bound := ofBigEndian_lt bytes.toList
    rwa [Vector.length_toList] at bound
  exact .cons (by decide) (.cons packet.trafficClass.toNat_lt (.cons packet.flowLabel.isLt
    (.cons packet.payloadLength.toNat_lt (.cons packet.nextHeader.toNat_lt
    (.cons packet.hopLimit.toNat_lt (.cons (address packet.sourceAddress)
    (.cons (address packet.destinationAddress) .nil)))))))

theorem wire_length : packet.wire.length = 40 := encodeFields_length _ _

/-- The wire fills the whole header. -/
theorem header_rep : packet.header.rep.toList = packet.wire :=
  store_whole Ipv6Header.zero.rep packet.wire packet.wire_length

/-- The accessors of the stored packet read its values. -/
theorem shows : ShowsIpv6 packet.header packet := by
  apply showsIpv6_of_readings
  rw [← decodeFields_ipv6, header_rep, wire,
    decodeFields_encodeFields (by decide) packet.values_fits]

/-- A header shows one packet. -/
theorem shows_unique {header : Ipv6Header} {packet other : Ipv6Packet}
    (shows : ShowsIpv6 header packet) (also : ShowsIpv6 header other) : packet = other := by
  cases packet
  cases other
  simp only [Ipv6Packet.mk.injEq]
  exact ⟨shows.trafficClass.symm.trans also.trafficClass,
    Fin.ext (shows.flowLabel.symm.trans also.flowLabel),
    shows.payloadLength.symm.trans also.payloadLength,
    shows.nextHeader.symm.trans also.nextHeader,
    UInt8.toNat_inj.mp (shows.hopLimit.symm.trans also.hopLimit),
    (AddressV6.mk.inj (shows.sourceAddress.symm.trans also.sourceAddress)).1,
    (AddressV6.mk.inj (shows.destinationAddress.symm.trans also.destinationAddress)).1⟩

end Specification.Ipv6Packet

section Update

variable (header : Ipv6Header) (address : AddressV6)

theorem setSourceAddress_getElem (index : Nat) (inside : index < 40) :
    (header.setSourceAddress address).rep[index] =
      if index = 0 then ((6 : UInt8) <<< 4) ||| (byteAt header.rep.toList 0 &&& 0xF)
      else if source : 8 ≤ index ∧ index < 24 then address.bytes[index - 8]
      else header.rep[index] := by
  simp only [Ipv6Header.setSourceAddress]
  rw [Vector.getElem_set]
  by_cases first : index = 0
  · rw [if_pos first.symm, if_pos first, store_behind _ 8 _ 0 (by decide) (by decide),
      getElem_octet]
  · rw [if_neg (Ne.symm first), if_neg first, store_getElem]
    by_cases behind : 8 ≤ index
    · by_cases source : index < 24
      · rw [if_pos behind, dif_pos ⟨behind, source⟩, List.getElem?_eq_getElem (by
          rw [Vector.length_toList]; omega), Option.getD_some, Vector.getElem_toList]
      · rw [if_pos behind, dif_neg (fun both => source both.2), List.getElem?_eq_none (by
          rw [Vector.length_toList]; omega), Option.getD_none]
    · rw [if_neg behind, dif_neg (fun both => behind both.1)]

/-- The first byte keeps its low bits. -/
theorem setSourceAddress_first :
    (byteAt (header.setSourceAddress address).rep.toList 0).toNat =
      6 * 16 + (byteAt header.rep.toList 0).toNat % 16 := by
  have low : (byteAt header.rep.toList 0).toNat % 16 < 2 ^ 4 := Nat.mod_lt _ (by decide)
  rw [← getElem_octet _ 0 (by decide), setSourceAddress_getElem, if_pos rfl, UInt8.toNat_or,
    toNat_low_nibble]
  exact (Nat.two_pow_add_eq_or_of_lt low 6).symm

theorem setSourceAddress_version : (header.setSourceAddress address).version = 6 := by
  apply UInt8.toNat_inj.mp
  rw [ipv6Version_toNat, setSourceAddress_first]
  change _ = 6
  omega

/-- The update replaces the source address of the packet. -/
theorem ipv6PacketOf_setSourceAddress :
    ipv6PacketOf (header.setSourceAddress address) =
      { ipv6PacketOf header with sourceAddress := address.bytes } := by
  have kept (index : Nat) (inside : index < 40) (positive : 0 < index)
      (outside : index < 8 ∨ 24 ≤ index) :
      byteAt (header.setSourceAddress address).rep.toList index =
        byteAt header.rep.toList index := by
    rw [← getElem_octet _ index inside, setSourceAddress_getElem, if_neg (by omega),
      dif_neg (by omega), getElem_octet]
  have trafficClass : (header.setSourceAddress address).trafficClass = header.trafficClass := by
    apply UInt8.toNat_inj.mp
    rw [trafficClass_toNat, trafficClass_toNat, setSourceAddress_first,
      kept 1 (by decide) (by decide) (by decide)]
    omega
  have flowLabel : (header.setSourceAddress address).flowLabel = header.flowLabel := by
    apply UInt32.toNat_inj.mp
    rw [flowLabel_toNat, flowLabel_toNat, kept 1 (by decide) (by decide) (by decide),
      kept 2 (by decide) (by decide) (by decide), kept 3 (by decide) (by decide) (by decide)]
  have length : (header.setSourceAddress address).headerLength = header.headerLength := by
    simp only [Ipv6Header.headerLength, getElem_octet, kept 4 (by decide) (by decide) (by decide),
      kept 5 (by decide) (by decide) (by decide)]
  have next : (header.setSourceAddress address).nextHeader = header.nextHeader := by
    simp only [Ipv6Header.nextHeader, getElem_octet, kept 6 (by decide) (by decide) (by decide)]
  have hops : (header.setSourceAddress address).timeToLive = header.timeToLive := by
    simp only [Ipv6Header.timeToLive, getElem_octet, kept 7 (by decide) (by decide) (by decide)]
  have source : (header.setSourceAddress address).sourceAddress.bytes = address.bytes := by
    apply Vector.ext
    intro index inside
    simp only [Ipv6Header.sourceAddress, Vector.getElem_ofFn]
    rw [setSourceAddress_getElem, if_neg (by omega), dif_pos (by omega)]
    simp only [Nat.add_sub_cancel_left]
  have destination : (header.setSourceAddress address).destinationAddress.bytes =
      header.destinationAddress.bytes := by
    apply Vector.ext
    intro index inside
    simp only [Ipv6Header.destinationAddress, Vector.getElem_ofFn]
    rw [getElem_octet, getElem_octet, kept (24 + index) (by omega) (by omega) (by omega)]
  simp only [ipv6PacketOf, trafficClass, flowLabel, length, next, hops, source, destination]

end Update

section Acceptance

variable {bytes rest : List UInt8}

/-- A long enough stream fills the header, and the version decides. -/
theorem ipv6Extract_full (enough : 40 ≤ bytes.length) {header : Ipv6Header}
    (stored : header.rep.toList = bytes.take 40) :
    Ipv6Header.extract ⟨bytes, true⟩ .zero =
      (header, ⟨bytes.drop 40, decide (header.version = 6)⟩) := by
  have filled : store Ipv6Header.zero.rep 0 (bytes.take 40) = header.rep := by
    rw [← stored, store_toList]
  rw [Ipv6Header.extract, InputStream.read_full bytes 40 enough]
  simp only [filled]
  by_cases six : header.version = 6
  · rw [if_neg (not_not.mpr six), decide_eq_true six]
  · rw [if_pos six, decide_eq_false six, InputStream.setFail]

/-- A short stream fails. -/
theorem ipv6Extract_short (short : bytes.length < 40) :
    (Ipv6Header.extract ⟨bytes, true⟩ .zero).2.good = false := by
  rw [Ipv6Header.extract, InputStream.read_short bytes 40 short]
  simp only [InputStream.setFail]
  split <;> rfl

theorem exists_ipv6Header (enough : 40 ≤ bytes.length) :
    ∃ header : Ipv6Header, header.rep.toList = bytes.take 40 := by
  have length : (bytes.take 40).length = 40 := List.length_take_of_le enough
  exact ⟨⟨⟨(bytes.take 40).toArray, length⟩⟩, rfl⟩

/-- The extraction succeeds exactly on the wire of a packet, stores this packet alone, and leaves
what follows. The accessors of the stored header read the fields of the packet, and the source
address update of any header stores the packet that it showed with this source address. -/
theorem ipv6_extract_iff (bytes rest : List UInt8) (header : Ipv6Header) :
    (Ipv6Header.extract ⟨bytes, true⟩ .zero = (header, ⟨rest, true⟩) ↔
      ∃! packet : Ipv6Packet, bytes = packet.wire ++ rest ∧ header = packet.header) ∧
    (∀ packet : Ipv6Packet, ShowsIpv6 packet.header packet) ∧
    ∀ address : AddressV6, header.setSourceAddress address =
      Ipv6Packet.header { ipv6PacketOf header with sourceAddress := address.bytes } := by
  refine ⟨⟨?_, ?_⟩, fun packet => packet.shows, ?_⟩
  · intro extracted
    have enough : 40 ≤ bytes.length := by
      by_contra short
      have failed := ipv6Extract_short (Nat.lt_of_not_le short)
      rw [extracted] at failed
      cases failed
    obtain ⟨filled, stored⟩ := exists_ipv6Header enough
    rw [ipv6Extract_full enough stored] at extracted
    obtain ⟨rfl, isStream⟩ := Prod.mk.inj extracted
    obtain ⟨isRest, isSix⟩ := InputStream.mk.inj isStream
    have six : filled.version = 6 := of_decide_eq_true isSix
    have same := ipv6PacketOf_header six
    refine ⟨ipv6PacketOf filled, ⟨?_, same.symm⟩, ?_⟩
    · rw [ipv6PacketOf_wire six, stored, ← isRest, List.take_append_drop]
    · intro other describes
      have shows : ShowsIpv6 filled other := by
        rw [describes.2]
        exact other.shows
      have own := (ipv6PacketOf filled).shows
      rw [same] at own
      exact Ipv6Packet.shows_unique shows own
  · intro unique
    obtain ⟨packet, ⟨isWire, isHeader⟩, _⟩ := unique
    have six : packet.header.version = 6 := packet.shows.version
    have front : (packet.wire ++ rest).take 40 = packet.wire := List.take_left' packet.wire_length
    have back : (packet.wire ++ rest).drop 40 = rest := List.drop_left' packet.wire_length
    have enough : 40 ≤ (packet.wire ++ rest).length := by
      rw [List.length_append, packet.wire_length]
      exact Nat.le_add_right 40 _
    rw [isWire, isHeader, ipv6Extract_full enough (packet.header_rep.trans front.symm), back,
      decide_eq_true six]
  · intro address
    have six := setSourceAddress_version header address
    rw [← ipv6PacketOf_setSourceAddress, ipv6PacketOf_header six]

end Acceptance

end NetworkTools
