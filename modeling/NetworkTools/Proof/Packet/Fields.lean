/-
This file proves that the accessors of the IP headers read the fields of the wire formats.
-/

import NetworkTools.Specification.Packet
import NetworkTools.Proof.Receive.Extraction
import Mathlib.Data.Nat.Bitwise

namespace NetworkTools
open Library Specification

section Groups

theorem decodeFields_whole (bytes : List UInt8) :
    decodeFields [8 * bytes.length] bytes = [ofBigEndian bytes] := by
  have inside := ofBigEndian_lt bytes
  rw [pow_bytes] at inside
  simp [decodeFields, splitBits, Nat.mod_eq_of_lt inside]

theorem decodeFields_byte (byte : UInt8) : decodeFields [8] [byte] = [byte.toNat] := by
  rw [show [8] = [8 * [byte].length] from rfl, decodeFields_whole, ofBigEndian, List.foldl_cons,
    List.foldl_nil, Nat.zero_mul, Nat.zero_add]

theorem ofBigEndian_pair (high low : UInt8) :
    ofBigEndian [high, low] = (decode high low).toNat := by
  rw [decode_toNat, ofBigEndian, List.foldl_cons, List.foldl_cons, List.foldl_nil, Nat.zero_mul,
    Nat.zero_add]

theorem decodeFields_word (high low : UInt8) :
    decodeFields [16] [high, low] = [(decode high low).toNat] := by
  rw [show [16] = [8 * [high, low].length] from rfl, decodeFields_whole, ofBigEndian_pair]

theorem toNat_high_nibble (byte : UInt8) : ((byte >>> 4) &&& 0xF).toNat = byte.toNat / 16 := by
  have bound := byte.toNat_lt
  simp only [UInt8.toNat_and, UInt8.toNat_shiftRight, Nat.shiftRight_eq_div_pow]
  change byte.toNat / 2 ^ 4 &&& 2 ^ 4 - 1 = _
  rw [Nat.and_two_pow_sub_one_eq_mod]
  omega

theorem toNat_low_nibble (byte : UInt8) : (byte &&& 0xF).toNat = byte.toNat % 16 := by
  rw [UInt8.toNat_and]
  exact Nat.and_two_pow_sub_one_eq_mod byte.toNat 4

/-- A mask with one bit tests this bit. -/
theorem toNat_masked (byte : UInt8) (place : Nat) (inside : place < 8) :
    (decide ((byte &&& UInt8.ofNat (2 ^ place)) ≠ 0)).toNat = byte.toNat / 2 ^ place % 2 := by
  have small : 2 ^ place % 2 ^ 8 = 2 ^ place :=
    Nat.mod_eq_of_lt (Nat.pow_lt_pow_right (by decide) inside)
  have masked : (byte &&& UInt8.ofNat (2 ^ place)).toNat =
      (byte.toNat.testBit place).toNat * 2 ^ place := by
    rw [UInt8.toNat_and, UInt8.toNat_ofNat', small, Nat.and_two_pow]
  rw [← Nat.toNat_testBit]
  congr 1
  apply Bool.eq_iff_iff.mpr
  rw [decide_eq_true_iff, ne_eq, ← UInt8.toNat_inj, masked]
  cases byte.toNat.testBit place <;> simp

end Groups

section Octets

theorem getElem_octet {size : Nat} (rep : Vector UInt8 size) (index : Nat) (inside : index < size) :
    rep[index] = byteAt rep.toList index := by
  rw [byteAt, List.getElem?_eq_getElem (by rwa [Vector.length_toList]), Option.getD_some,
    Vector.getElem_toList]

theorem take_octets (bytes : List UInt8) (count : Nat) (enough : count ≤ bytes.length) :
    bytes.take count = (List.range count).map (byteAt bytes) := by
  apply List.ext_getElem
  · rw [List.length_take, List.length_map, List.length_range, Nat.min_eq_left enough]
  · intro index left right
    rw [List.length_take, Nat.min_eq_left enough] at left
    rw [List.getElem_take, List.getElem_map, List.getElem_range, byteAt,
      List.getElem?_eq_getElem (by omega), Option.getD_some]

end Octets

section Ipv4

variable (header : Ipv4Header)

/-- What the accessors read, with the reserved bit that has no accessor. -/
def ipv4Readings : List Nat :=
  [header.version.toNat, header.headerLength.toNat / 4, header.typeOfService.toNat,
    header.totalLength.toNat, header.identification.toNat,
    (byteAt header.rep.toList 6).toNat / 128, header.dontFragment.toNat,
    header.moreFragments.toNat, header.fragmentOffset.toNat, header.timeToLive,
    header.protocol.toNat, header.headerChecksum.toNat,
    ofBigEndian header.sourceAddress.bytes.toList,
    ofBigEndian header.destinationAddress.bytes.toList]

/-- The groups of fields that fill whole bytes. -/
def ipv4Groups : List (List Nat × List UInt8) :=
  let octet := byteAt header.rep.toList
  [([4, 4], [octet 0]), ([8], [octet 1]), ([16], [octet 2, octet 3]), ([16], [octet 4, octet 5]),
    ([1, 1, 1, 13], [octet 6, octet 7]), ([8], [octet 8]), ([8], [octet 9]),
    ([16], [octet 10, octet 11]), ([8 * 4], [octet 12, octet 13, octet 14, octet 15]),
    ([8 * 4], [octet 16, octet 17, octet 18, octet 19])]

theorem ipv4Groups_bytes :
    (ipv4Groups header).flatMap Prod.snd = header.rep.toList.take 20 := by
  rw [take_octets _ 20 (by rw [Vector.length_toList]; decide)]
  rfl

theorem fragmentOffset_toNat :
    header.fragmentOffset.toNat =
      ((byteAt header.rep.toList 6).toNat * 256 + (byteAt header.rep.toList 7).toNat) % 2 ^ 13 := by
  rw [Ipv4Header.fragmentOffset, getElem_octet, getElem_octet, UInt16.toNat_and, decode_toNat]
  exact Nat.and_two_pow_sub_one_eq_mod _ 13

theorem decodeFields_flags :
    decodeFields [1, 1, 1, 13] [byteAt header.rep.toList 6, byteAt header.rep.toList 7] =
      [(byteAt header.rep.toList 6).toNat / 128, header.dontFragment.toNat,
        header.moreFragments.toNat, header.fragmentOffset.toNat] := by
  have dontFragment : header.dontFragment.toNat =
      (byteAt header.rep.toList 6).toNat / 2 ^ 6 % 2 := by
    rw [Ipv4Header.dontFragment, getElem_octet]
    exact toNat_masked _ 6 (by decide)
  have moreFragments : header.moreFragments.toNat =
      (byteAt header.rep.toList 6).toNat / 2 ^ 5 % 2 := by
    rw [Ipv4Header.moreFragments, getElem_octet]
    exact toNat_masked _ 5 (by decide)
  have highBound := (byteAt header.rep.toList 6).toNat_lt
  have lowBound := (byteAt header.rep.toList 7).toNat_lt
  rw [dontFragment, moreFragments, fragmentOffset_toNat, decodeFields, ofBigEndian_pair,
    decode_toNat]
  simp only [splitBits, List.sum_cons, List.sum_nil, Nat.reduceAdd, Nat.reducePow, List.cons.injEq,
    and_true]
  omega

theorem decodeFields_ipv4 :
    decodeFields ipv4Layout (header.rep.toList.take 20) = ipv4Readings header := by
  have nibbles : decodeFields [4, 4] [byteAt header.rep.toList 0] =
      [header.version.toNat, header.headerLength.toNat / 4] := by
    have bound := (byteAt header.rep.toList 0).toNat_lt
    rw [Ipv4Header.version_toNat, Ipv4Header.headerLength_toNat, getElem_octet]
    simp only [decodeFields, ofBigEndian, List.foldl_cons, List.foldl_nil, splitBits, List.sum_cons,
      List.sum_nil, Nat.reduceAdd, Nat.reducePow, List.cons.injEq, and_true]
    omega
  have address (first second third fourth : UInt8) :
      decodeFields [8 * 4] [first, second, third, fourth] =
        [ofBigEndian [first, second, third, fourth]] :=
    decodeFields_whole [first, second, third, fourth]
  have layout : (ipv4Groups header).flatMap Prod.fst = ipv4Layout := rfl
  rw [← ipv4Groups_bytes, ← layout, decodeFields_groups _ (by simp [ipv4Groups])]
  simp only [ipv4Groups, List.flatMap_cons, List.flatMap_nil, nibbles, decodeFields_byte,
    decodeFields_word, decodeFields_flags, address, ipv4Readings, Ipv4Header.typeOfService,
    Ipv4Header.totalLength, Ipv4Header.identification, Ipv4Header.timeToLive, Ipv4Header.protocol,
    Ipv4Header.headerChecksum, Ipv4Header.sourceAddress, Ipv4Header.destinationAddress,
    getElem_octet]
  rfl

end Ipv4

section Ipv6

variable (header : Ipv6Header)

/-- What the accessors read. -/
def ipv6Readings : List Nat :=
  [header.version.toNat, header.trafficClass.toNat, header.flowLabel.toNat,
    header.headerLength.toNat, header.nextHeader.toNat, header.timeToLive,
    ofBigEndian header.sourceAddress.bytes.toList,
    ofBigEndian header.destinationAddress.bytes.toList]

/-- The groups of fields that fill whole bytes. -/
def ipv6Groups : List (List Nat × List UInt8) :=
  let octet := byteAt header.rep.toList
  [([4, 8, 20], [octet 0, octet 1, octet 2, octet 3]), ([16], [octet 4, octet 5]),
    ([8], [octet 6]), ([8], [octet 7]), ([8 * 16], header.sourceAddress.bytes.toList),
    ([8 * 16], header.destinationAddress.bytes.toList)]

theorem ipv6Groups_bytes : (ipv6Groups header).flatMap Prod.snd = header.rep.toList := by
  have slice (start : Nat) (inside : start + 16 ≤ 40) :
      (Vector.ofFn fun index : Fin 16 => header.rep[start + index.val]).toList =
        (header.rep.toList.drop start).take 16 := by
    apply List.ext_getElem
    · rw [Vector.length_toList, List.length_take, List.length_drop, Vector.length_toList]
      omega
    · intro index left right
      simp
  have front := take_octets header.rep.toList 8 (by rw [Vector.length_toList]; decide)
  have back : (header.rep.toList.drop 24).take 16 = header.rep.toList.drop 24 := by
    apply List.take_of_length_le
    rw [List.length_drop, Vector.length_toList]
  have source : header.sourceAddress.bytes.toList = (header.rep.toList.drop 8).take 16 :=
    slice 8 (by decide)
  have destination : header.destinationAddress.bytes.toList = header.rep.toList.drop 24 :=
    (slice 24 (by decide)).trans back
  calc (ipv6Groups header).flatMap Prod.snd
      = header.rep.toList.take 8 ++
          ((header.rep.toList.drop 8).take 16 ++ (header.rep.toList.drop 8).drop 16) := by
        rw [front, ← source, List.drop_drop, ← destination]
        simp [ipv6Groups, List.range_succ]
    _ = header.rep.toList := by rw [List.take_append_drop, List.take_append_drop]

theorem ipv6Version_toNat :
    header.version.toNat = (byteAt header.rep.toList 0).toNat / 16 := by
  rw [Ipv6Header.version, getElem_octet, toNat_high_nibble]

theorem trafficClass_toNat :
    header.trafficClass.toNat = (byteAt header.rep.toList 0).toNat % 16 * 16 +
      (byteAt header.rep.toList 1).toNat / 16 := by
  have bound := (byteAt header.rep.toList 1).toNat_lt
  have low : (byteAt header.rep.toList 1).toNat / 16 < 2 ^ 4 := by omega
  have high (n : Nat) : n % 16 * 2 ^ 4 % 2 ^ 8 = 2 ^ 4 * (n % 16) := by omega
  rw [Ipv6Header.trafficClass, getElem_octet, getElem_octet, UInt8.toNat_or, toNat_high_nibble,
    UInt8.toNat_shiftLeft, toNat_low_nibble, Nat.shiftLeft_eq]
  change (byteAt header.rep.toList 0).toNat % 16 * 2 ^ 4 % 2 ^ 8 ||| _ = _
  rw [high, ← Nat.two_pow_add_eq_or_of_lt low, Nat.mul_comm]

theorem flowLabel_toNat :
    header.flowLabel.toNat = (byteAt header.rep.toList 1).toNat % 16 * 65536 +
      (byteAt header.rep.toList 2).toNat * 256 + (byteAt header.rep.toList 3).toNat := by
  have joined (high middle low : Nat) (second : middle < 256) (third : low < 2 ^ 8) :
      high % 16 * 2 ^ 16 % 2 ^ 32 ||| middle * 2 ^ 8 % 2 ^ 32 ||| low =
        high % 16 * 65536 + middle * 256 + low := by
    have shifted : high % 16 * 2 ^ 16 % 2 ^ 32 = 2 ^ 16 * (high % 16) := by omega
    have pair : 2 ^ 8 * middle < 2 ^ 16 := by omega
    have byteShifted : middle * 2 ^ 8 % 2 ^ 32 = 2 ^ 8 * middle := by
      rw [Nat.mul_comm, Nat.mod_eq_of_lt (Nat.lt_trans pair (by decide))]
    have regrouped : 2 ^ 16 * (high % 16) + 2 ^ 8 * middle =
        2 ^ 8 * (high % 16 * 256 + middle) := by omega
    rw [shifted, byteShifted, ← Nat.two_pow_add_eq_or_of_lt pair, regrouped,
      ← Nat.two_pow_add_eq_or_of_lt third]
    omega
  simp only [Ipv6Header.flowLabel, getElem_octet, UInt32.toNat_or, UInt32.toNat_shiftLeft,
    UInt8.toNat_toUInt32, toNat_low_nibble, Nat.shiftLeft_eq]
  change (byteAt header.rep.toList 1).toNat % 16 * 2 ^ 16 % 2 ^ 32 |||
    (byteAt header.rep.toList 2).toNat * 2 ^ 8 % 2 ^ 32 ||| (byteAt header.rep.toList 3).toNat = _
  exact joined _ _ _ (UInt8.toNat_lt _) (UInt8.toNat_lt _)

theorem decodeFields_ipv6 :
    decodeFields ipv6Layout header.rep.toList = ipv6Readings header := by
  have first : decodeFields [4, 8, 20]
      [byteAt header.rep.toList 0, byteAt header.rep.toList 1, byteAt header.rep.toList 2,
        byteAt header.rep.toList 3] =
        [header.version.toNat, header.trafficClass.toNat, header.flowLabel.toNat] := by
    rw [ipv6Version_toNat, trafficClass_toNat, flowLabel_toNat]
    have bound := (byteAt header.rep.toList 0).toNat_lt
    have next := (byteAt header.rep.toList 1).toNat_lt
    have middle := (byteAt header.rep.toList 2).toNat_lt
    have low := (byteAt header.rep.toList 3).toNat_lt
    simp only [decodeFields, ofBigEndian, List.foldl_cons, List.foldl_nil, splitBits, List.sum_cons,
      List.sum_nil, Nat.reduceAdd, Nat.reducePow, List.cons.injEq, and_true]
    omega
  have address (address : AddressV6) :
      decodeFields [8 * 16] address.bytes.toList = [ofBigEndian address.bytes.toList] := by
    have whole := decodeFields_whole address.bytes.toList
    rwa [Vector.length_toList] at whole
  have layout : (ipv6Groups header).flatMap Prod.fst = ipv6Layout := rfl
  rw [← ipv6Groups_bytes, ← layout, decodeFields_groups _ (by simp [ipv6Groups])]
  simp only [ipv6Groups, List.flatMap_cons, List.flatMap_nil, first, decodeFields_byte,
    decodeFields_word, address, ipv6Readings, Ipv6Header.headerLength, Ipv6Header.nextHeader,
    Ipv6Header.timeToLive, getElem_octet]
  rfl

end Ipv6

end NetworkTools
