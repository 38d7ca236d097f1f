/-
This file proves that the IPv4 extraction accepts exactly the wire format and reads its fields.
-/

import NetworkTools.Proof.Packet.Fields

namespace NetworkTools
open Library Specification

section Extraction

/-- A readable header is stored whole, and the stream goes on behind it. -/
theorem ipv4Extract_eq {bytes : List UInt8} (readable : Ipv4Readable bytes) :
    Ipv4Header.extract ⟨bytes, true⟩ .zero =
      (⟨store Ipv4Header.zero.rep 0 (bytes.take (ipv4HeaderSize bytes))⟩,
        ⟨bytes.drop (ipv4HeaderSize bytes), true⟩) := by
  obtain ⟨version, low, high⟩ := readable
  have fixed : (bytes.take 20).length = 20 := by
    rw [List.length_take]
    omega
  have whole : bytes.take (ipv4HeaderSize bytes) =
      bytes.take 20 ++ (bytes.drop 20).take (ipv4HeaderSize bytes - 20) := by
    rw [← List.take_add, Nat.add_sub_cancel' low]
  apply Prod.ext
  · rw [ipv4Extract_options _ (by rwa [fixedPart_headerLength]), fixedPart_headerLength,
      versionChecked_eq, if_pos version, InputStream.read_full bytes 20 (by omega),
      InputStream.read_full _ _ (by rw [List.length_drop]; omega), whole, store_append, fixed,
      Nat.zero_add, fixedPart, InputStream.read_full bytes 20 (by omega)]
  · exact ipv4Extract_readable bytes ⟨version, low, high⟩

end Extraction

/-- The readings of a header are its fields. -/
theorem showsIpv4_of_readings {header : Ipv4Header} {packet : Ipv4Packet}
    (readings : ipv4Readings header = packet.values) : ShowsIpv4 header packet := by
  simp only [ipv4Readings, Ipv4Packet.values, List.cons.injEq, and_true] at readings
  obtain ⟨version, length, typeOfService, totalLength, identification, _, dontFragment,
    moreFragments, fragmentOffset, timeToLive, protocol, headerChecksum, source, destination⟩ :=
    readings
  have words := packet.inWords
  have multiple := Ipv4Header.headerLength_toNat header
  have flag {left right : Bool} (same : left.toNat = right.toNat) : left = right := by
    cases left <;> cases right <;> simp_all
  have address {left right : AddressV4}
      (same : ofBigEndian left.bytes.toList = ofBigEndian right.bytes.toList) : left = right := by
    have bytes := ofBigEndian_inj (by rw [Vector.length_toList, Vector.length_toList]) same
    cases left
    cases right
    exact congrArg AddressV4.mk (Vector.toList_inj.mp bytes)
  exact {
    version := UInt8.toNat_inj.mp version
    headerLength := by omega
    typeOfService := UInt8.toNat_inj.mp typeOfService
    totalLength := UInt16.toNat_inj.mp totalLength
    identification := UInt16.toNat_inj.mp identification
    dontFragment := flag dontFragment
    moreFragments := flag moreFragments
    fragmentOffset := fragmentOffset
    timeToLive := timeToLive
    protocol := UInt8.toNat_inj.mp protocol
    headerChecksum := UInt16.toNat_inj.mp headerChecksum
    sourceAddress := address source
    destinationAddress := address destination }

namespace Specification.Ipv4Packet

variable (packet : Ipv4Packet)

theorem values_fits : Fits ipv4Layout packet.values := by
  have options := packet.atMostTen
  have address (address : AddressV4) : ofBigEndian address.bytes.toList < 2 ^ 32 := by
    have bound := ofBigEndian_lt address.bytes.toList
    rwa [Vector.length_toList] at bound
  have words : 5 + packet.options.length / 4 < 2 ^ 4 := by omega
  exact .cons (by decide) (.cons words (.cons packet.typeOfService.toNat_lt
    (.cons packet.totalLength.toNat_lt (.cons packet.identification.toNat_lt
    (.cons packet.reserved.toNat_lt (.cons packet.dontFragment.toNat_lt
    (.cons packet.moreFragments.toNat_lt (.cons packet.fragmentOffset.isLt
    (.cons packet.timeToLive.toNat_lt (.cons packet.protocol.toNat_lt
    (.cons packet.headerChecksum.toNat_lt (.cons (address packet.sourceAddress)
    (.cons (address packet.destinationAddress) .nil)))))))))))))

theorem fixed_length : (encodeFields ipv4Layout packet.values).length = 20 :=
  encodeFields_length _ _

theorem wire_length : packet.wire.length = 20 + packet.options.length := by
  rw [wire, List.length_append, fixed_length]

/-- The accessors of the stored packet read its values. -/
theorem readings : ipv4Readings packet.header = packet.values := by
  have length := packet.wire_length
  have options := packet.atMostTen
  have stored : packet.header.rep.toList.take 20 = encodeFields ipv4Layout packet.values := by
    have whole := store_take Ipv4Header.zero.rep packet.wire (by omega)
    have front : packet.wire.take 20 = encodeFields ipv4Layout packet.values :=
      List.take_left' packet.fixed_length
    rw [← front, ← whole, List.take_take, Nat.min_eq_left (by omega)]
    rfl
  rw [← decodeFields_ipv4, stored, decodeFields_encodeFields (by decide) packet.values_fits]

theorem shows : ShowsIpv4 packet.header packet :=
  showsIpv4_of_readings packet.readings

/-- A wire has one packet. -/
theorem wire_injective {packet other : Ipv4Packet} (same : packet.wire = other.wire) :
    packet = other := by
  have split := List.append_inj same (by rw [fixed_length, fixed_length])
  have values : packet.values = other.values := by
    rw [← decodeFields_encodeFields (by decide) packet.values_fits, split.1,
      decodeFields_encodeFields (by decide) other.values_fits]
  have shows : ShowsIpv4 packet.header other :=
    showsIpv4_of_readings (packet.readings.trans values)
  have own := packet.shows
  have reserved : packet.reserved = other.reserved := by
    simp only [Ipv4Packet.values, List.cons.injEq] at values
    have number := values.2.2.2.2.2.1
    cases first : packet.reserved <;> cases second : other.reserved <;> simp_all
  cases packet
  cases other
  simp only [Ipv4Packet.mk.injEq]
  exact ⟨own.typeOfService.symm.trans shows.typeOfService,
    own.totalLength.symm.trans shows.totalLength,
    own.identification.symm.trans shows.identification, reserved,
    own.dontFragment.symm.trans shows.dontFragment,
    own.moreFragments.symm.trans shows.moreFragments,
    Fin.ext (own.fragmentOffset.symm.trans shows.fragmentOffset),
    UInt8.toNat_inj.mp (own.timeToLive.symm.trans shows.timeToLive),
    own.protocol.symm.trans shows.protocol,
    own.headerChecksum.symm.trans shows.headerChecksum,
    own.sourceAddress.symm.trans shows.sourceAddress,
    own.destinationAddress.symm.trans shows.destinationAddress, split.2⟩

/-- The first byte of a wire holds the version and the header length. -/
theorem wire_readable (rest : List UInt8) :
    ipv4HeaderSize (packet.wire ++ rest) = packet.wire.length ∧
      Ipv4Readable (packet.wire ++ rest) := by
  have length := packet.wire_length
  have first : packet.header.rep[0] = byteAt (packet.wire ++ rest) 0 := by
    rw [header, Ipv4Header.zero, store_zero _ 0 (by decide), byteAt, byteAt,
      List.getElem?_append_left (by omega)]
  have version : ipv4Version (packet.wire ++ rest) = 4 := by
    have shown := congrArg UInt8.toNat packet.shows.version
    rwa [Ipv4Header.version_toNat, first] at shown
  have size : ipv4HeaderSize (packet.wire ++ rest) = packet.wire.length := by
    have shown := packet.shows.headerLength
    rw [Ipv4Header.headerLength_toNat, first] at shown
    rw [ipv4HeaderSize, Nat.mul_comm, shown, length]
  refine ⟨size, version, ?_, ?_⟩
  · rw [size]
    omega
  · rw [size, List.length_append]
    exact Nat.le_add_right _ _

end Specification.Ipv4Packet

section Acceptance

/-- The header of a readable datagram is the wire of a packet. -/
theorem exists_ipv4Packet {bytes : List UInt8} (readable : Ipv4Readable bytes) :
    ∃ packet : Ipv4Packet, packet.wire = bytes.take (ipv4HeaderSize bytes) := by
  obtain ⟨version, low, high⟩ := readable
  have length : (bytes.take (ipv4HeaderSize bytes)).length = ipv4HeaderSize bytes :=
    List.length_take_of_le high
  have atMost : ipv4HeaderSize bytes ≤ 60 := by
    rw [ipv4HeaderSize]
    omega
  have words : 4 ∣ ipv4HeaderSize bytes := ⟨_, rfl⟩
  generalize isHeader : (⟨store Ipv4Header.zero.rep 0 (bytes.take (ipv4HeaderSize bytes))⟩ :
    Ipv4Header) = header
  have first : header.rep[0] = byteAt bytes 0 := by
    rw [← isHeader]
    exact (store_zero _ 0 (by decide)).trans (byteAt_take bytes _ 0 (by omega))
  have stored : header.rep.toList.take 20 = (bytes.take (ipv4HeaderSize bytes)).take 20 := by
    have whole := store_take Ipv4Header.zero.rep (bytes.take (ipv4HeaderSize bytes)) (by omega)
    rw [length] at whole
    rw [← isHeader]
    generalize store Ipv4Header.zero.rep 0 (bytes.take (ipv4HeaderSize bytes)) = rep at whole
    rw [← whole, List.take_take, Nat.min_eq_left low]
  have offset : header.fragmentOffset.toNat < 2 ^ 13 := by
    rw [fragmentOffset_toNat]
    exact Nat.mod_lt _ (by decide)
  have optionsLength : ((bytes.take (ipv4HeaderSize bytes)).drop 20).length =
      ipv4HeaderSize bytes - 20 := by
    rw [List.length_drop, length]
  -- The packet reads its fields through the accessors.
  let packet : Ipv4Packet := {
    typeOfService := header.typeOfService
    totalLength := header.totalLength
    identification := header.identification
    reserved := decide (128 ≤ (byteAt header.rep.toList 6).toNat)
    dontFragment := header.dontFragment
    moreFragments := header.moreFragments
    fragmentOffset := ⟨header.fragmentOffset.toNat, offset⟩
    timeToLive := byteAt header.rep.toList 8
    protocol := header.protocol
    headerChecksum := header.headerChecksum
    sourceAddress := header.sourceAddress
    destinationAddress := header.destinationAddress
    options := (bytes.take (ipv4HeaderSize bytes)).drop 20
    inWords := by omega
    atMostTen := by omega }
  have values : packet.values = ipv4Readings header := by
    have isFour : header.version.toNat = 4 := by rw [Ipv4Header.version_toNat, first]; exact version
    have isSize : header.headerLength.toNat = ipv4HeaderSize bytes := by
      rw [Ipv4Header.headerLength_toNat, first, ipv4HeaderSize, Nat.mul_comm]
    have reserved : (decide (128 ≤ (byteAt header.rep.toList 6).toNat)).toNat =
        (byteAt header.rep.toList 6).toNat / 128 := by
      have bound := (byteAt header.rep.toList 6).toNat_lt
      by_cases high : 128 ≤ (byteAt header.rep.toList 6).toNat
      · rw [decide_eq_true high, Bool.toNat_true]
        omega
      · rw [decide_eq_false high, Bool.toNat_false]
        omega
    simp only [Ipv4Packet.values, ipv4Readings, packet, isFour, isSize, reserved, optionsLength,
      Ipv4Header.timeToLive, getElem_octet, List.cons.injEq, true_and, and_true]
    omega
  refine ⟨packet, ?_⟩
  have twenty : 8 * ((bytes.take (ipv4HeaderSize bytes)).take 20).length = ipv4Layout.sum := by
    rw [List.length_take, length, Nat.min_eq_left low]
    rfl
  rw [Ipv4Packet.wire, values, ← decodeFields_ipv4, stored, encodeFields_decodeFields twenty]
  exact List.take_append_drop 20 _

/-- The extraction succeeds exactly on the wire of a packet, stores this packet alone, and leaves
what follows. The accessors of the stored header read the fields of the packet. -/
theorem ipv4_extract_iff (bytes rest : List UInt8) (header : Ipv4Header) :
    (Ipv4Header.extract ⟨bytes, true⟩ .zero = (header, ⟨rest, true⟩) ↔
      ∃! packet : Ipv4Packet, bytes = packet.wire ++ rest ∧ header = packet.header) ∧
    ∀ packet : Ipv4Packet, ShowsIpv4 packet.header packet := by
  refine ⟨⟨?_, ?_⟩, fun packet => packet.shows⟩
  · intro extracted
    have readable : Ipv4Readable bytes := by
      by_contra unreadable
      have failed := ipv4Extract_unreadable bytes unreadable
      rw [extracted] at failed
      cases failed
    rw [ipv4Extract_eq readable] at extracted
    obtain ⟨isHeader, isStream⟩ := Prod.mk.inj extracted
    obtain ⟨isRest, _⟩ := InputStream.mk.inj isStream
    obtain ⟨packet, wire⟩ := exists_ipv4Packet readable
    have whole : bytes = packet.wire ++ rest := by rw [wire, ← isRest, List.take_append_drop]
    refine ⟨packet, ⟨whole, ?_⟩, ?_⟩
    · rw [← isHeader, Ipv4Packet.header, wire]
    · intro other describes
      apply Ipv4Packet.wire_injective
      exact List.append_cancel_right (describes.1.symm.trans whole)
  · intro unique
    obtain ⟨packet, ⟨isWire, isHeader⟩, _⟩ := unique
    obtain ⟨size, readable⟩ := packet.wire_readable rest
    rw [isWire, isHeader, ipv4Extract_eq readable, size, List.take_left, List.drop_left,
      Ipv4Packet.header]

end Acceptance

end NetworkTools
