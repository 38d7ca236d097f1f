/-
This file proves that both checksum implementations agree.
-/

import NetworkTools.Specification.Package

namespace NetworkTools
open Library

section Folds

/-- The shifts and masks of both implementations are quotients and remainders. -/
theorem foldCarries_eq (sum : Nat) :
    (sum >>> 16) + (sum &&& 0xFFFF) + ((sum >>> 16) + (sum &&& 0xFFFF)) >>> 16 =
      foldCarries sum := by
  change sum >>> 16 + (sum &&& 2 ^ 16 - 1) + (sum >>> 16 + (sum &&& 2 ^ 16 - 1)) >>> 16 = _
  rw [Nat.and_two_pow_sub_one_eq_mod, Nat.shiftRight_eq_div_pow, Nat.shiftRight_eq_div_pow]
  rfl

/-- The masked complement of a natural number is its sixteen-bit complement. -/
theorem mask_complement (sum : Nat) : (~~~(sum : Int)) % 0x10000 = (complement sum : Nat) := by
  change Int.negSucc sum % 65536 = _
  rw [complement]
  omega

end Folds

section Package

/-- The Python loop computes the sum of the words. -/
theorem sumWords_eq (checksum : Nat) (data : List UInt8) (even : data.length % 2 = 0) :
    IcmpPackage.sumWords checksum data = checksum + wordSum data := by
  induction data using wordSum.induct generalizing checksum with
  | case1 => rfl
  | case2 last => simp at even
  | case3 high low rest ih =>
      simp only [List.length_cons] at even
      rw [IcmpPackage.sumWords, ih _ (by omega), Nat.shiftLeft_eq]
      simp only [wordSum]
      omega

/-- The Python checksum is the folded complement of the word sum. -/
theorem IcmpPackage.computeChecksum_eq (data : List UInt8) :
    IcmpPackage.computeChecksum data = (complement (foldCarries (wordSum data)) : Nat) := by
  unfold IcmpPackage.computeChecksum
  have padded : IcmpPackage.sumWords 0 (if data.length % 2 ≠ 0 then data ++ [0] else data) =
      wordSum data := by
    split
    · next odd =>
        rw [sumWords_eq 0 _ (by rw [List.length_append, List.length_singleton]; omega),
          wordSum_pad data (by omega), Nat.zero_add]
    · next even => rw [sumWords_eq 0 data (by omega), Nat.zero_add]
  simp only [padded, foldCarries_eq]
  exact mask_complement _

end Package

section Header

/-- The loop over the body adds its words as long as thirty-two bits hold them. -/
theorem sumBody_toNat (sum : UInt32) (body : List UInt8)
    (fits : sum.toNat + wordSum body < 4294967296) :
    (IcmpHeader.sumBody sum body).toNat = sum.toNat + wordSum body := by
  have shifted (first : UInt8) : (first.toUInt32 <<< 8).toNat = first.toNat * 256 := by
    have bound := first.toNat_lt
    rw [UInt32.toNat_shiftLeft, UInt8.toNat_toUInt32, Nat.shiftLeft_eq]
    change first.toNat * 2 ^ 8 % 2 ^ 32 = _
    omega
  induction body using wordSum.induct generalizing sum with
  | case1 => rfl
  | case2 last =>
      simp only [wordSum] at fits
      rw [IcmpHeader.sumBody, UInt32.toNat_add, shifted]
      simp only [wordSum]
      omega
  | case3 high low rest ih =>
      simp only [wordSum] at fits
      have step : (sum + (high.toUInt32 <<< 8) + low.toUInt32).toNat =
          sum.toNat + high.toNat * 256 + low.toNat := by
        rw [UInt32.toNat_add, UInt32.toNat_add, shifted, UInt8.toNat_toUInt32]
        omega
      rw [IcmpHeader.sumBody, ih _ (by rw [step]; omega), step]
      simp only [wordSum]
      omega

/-- Two folds of a thirty-two bit sum do not overflow. -/
theorem foldCarries_toNat (sum once : UInt32) (isOnce : once = (sum >>> 16) + (sum &&& 0xFFFF)) :
    (once + (once >>> 16)).toNat = foldCarries sum.toNat := by
  have bound := sum.toNat_lt
  have mask : sum.toNat &&& 65535 = sum.toNat % 65536 :=
    Nat.and_two_pow_sub_one_eq_mod sum.toNat 16
  have first : once.toNat = sum.toNat / 65536 + sum.toNat % 65536 := by
    rw [isOnce]
    simp only [UInt32.toNat_add, UInt32.toNat_shiftRight, UInt32.toNat_and,
      Nat.shiftRight_eq_div_pow, UInt32.reduceToNat, Nat.reduceMod, Nat.reducePow, mask]
    omega
  simp only [UInt32.toNat_add, UInt32.toNat_shiftRight, Nat.shiftRight_eq_div_pow,
    UInt32.reduceToNat, Nat.reduceMod, Nat.reducePow, first, foldCarries]
  omega

theorem complement_toNat (sum : UInt32) :
    (~~~sum).toUInt16.toNat = complement sum.toNat := by
  have bound := sum.toNat_lt
  rw [UInt32.toNat_toUInt16, UInt32.toNat_not, complement]
  change (2 ^ 32 - 1 - sum.toNat) % 2 ^ 16 = _
  omega

theorem splitShort (n : UInt16) : (highByte n).toNat * 256 + (lowByte n).toNat = n.toNat := by
  rw [← decode_toNat, decode_split]

/-- The words of the header sum up to its fields. -/
theorem wordSum_header (header : IcmpHeader) :
    wordSum (header.setChecksum 0).bytes =
      header.type.toNat * 256 + header.code.toNat + header.identifier.toNat +
        header.sequenceNumber.toNat := by
  obtain ⟨type, code, identifier, sequence, checksum⟩ := header.setChecksum_fields 0
  rw [IcmpHeader.bytes_eq, type, code, identifier, sequence, checksum]
  simp only [wordSum, splitShort]
  change _ + (0 + _) = _
  omega

/-- The stored checksum is the folded complement of the word sum of the message. -/
theorem IcmpHeader.computeChecksum_eq (header : IcmpHeader) (body : List UInt8)
    (fits : 8 + body.length ≤ 65515) :
    (header.computeChecksum body).checksum.toNat =
      complement (foldCarries (wordSum ((header.setChecksum 0).bytes ++ body))) := by
  have bound := wordSum_le body
  have typeBound := header.type.toNat_lt
  have codeBound := header.code.toNat_lt
  have identifierBound := header.identifier.toNat_lt
  have sequenceBound := header.sequenceNumber.toNat_lt
  have fields : ((header.type.toUInt32 <<< 8) + header.code.toUInt32 +
      header.identifier.toUInt32 + header.sequenceNumber.toUInt32).toNat =
        wordSum (header.setChecksum 0).bytes := by
    rw [wordSum_header]
    simp only [UInt32.toNat_add, UInt32.toNat_shiftLeft, UInt8.toNat_toUInt32,
      UInt16.toNat_toUInt32, Nat.shiftLeft_eq, UInt32.reduceToNat, Nat.reduceMod, Nat.reducePow]
    omega
  rw [wordSum_append _ _ (by rw [IcmpHeader.bytes, Vector.length_toList])]
  unfold computeChecksum
  rw [(header.setChecksum_fields _).2.2.2.2, complement_toNat, foldCarries_toNat _ _ rfl,
    sumBody_toNat _ _ (by rw [fields, wordSum_header]; omega), fields]

end Header

section Agreement

variable {type : IcmpType} {header : IcmpHeader} (sameType : header.type.toNat = type.value)

include sameType

/-- The packer writes the bytes that the header class stores. -/
theorem pack_fields (checksum : UInt16) :
    pack [(.ubyte, (type.value : Int)), (.ubyte, (header.code.toNat : Int)),
      (.ushort, (checksum.toNat : Int)), (.ushort, (header.identifier.toNat : Int)),
      (.ushort, (header.sequenceNumber.toNat : Int))] =
        .ok (header.setChecksum checksum).bytes := by
  have short (n : UInt16) : bigEndian 2 n.toNat = [highByte n, lowByte n] := by
    rw [bigEndian_two]
    congr 1
    · apply UInt8.toNat_inj.mp
      rw [highByte_toNat, UInt8.toNat_ofNat']
      have bound := n.toNat_lt
      omega
    · congr 1
      apply UInt8.toNat_inj.mp
      rw [lowByte_toNat, UInt8.toNat_ofNat']
  obtain ⟨sameHeaderType, code, identifier, sequence, stored⟩ := header.setChecksum_fields checksum
  rw [IcmpHeader.bytes_eq, sameHeaderType, code, identifier, sequence, stored, ← sameType]
  rw [pack_cons header.type.toNat_lt (pack_cons header.code.toNat_lt
    (pack_cons checksum.toNat_lt (pack_cons header.identifier.toNat_lt
      (pack_cons header.sequenceNumber.toNat_lt rfl))))]
  simp only [StructFormat.size, bigEndian_one, short, List.cons_append, List.nil_append]

/-- The Python client computes the checksum that the C++ pinger stores, and encodes it alike. -/
theorem calculateChecksum_agrees (checksum : Int) (body : List UInt8)
    (fits : 8 + body.length ≤ 65515) :
    (IcmpPackage.ofHeader type header checksum body).calculateChecksum =
        .ok ((header.computeChecksum body).checksum.toNat : Int) ∧
      ((IcmpPackage.ofHeader type header checksum body).setChecksum
        (header.computeChecksum body).checksum.toNat).toBytes =
          .ok ((header.computeChecksum body).bytes ++ body) := by
  have zeroed : (IcmpPackage.ofHeader type header checksum body).buildHeaderBytes (some 0) =
      .ok (header.setChecksum 0).bytes := pack_fields sameType 0
  apply And.intro
  · rw [IcmpPackage.calculateChecksum, zeroed, IcmpHeader.computeChecksum_eq header body fits]
    change Except.ok (IcmpPackage.computeChecksum _) = _
    rw [IcmpPackage.computeChecksum_eq]
    rfl
  · have stored : ((IcmpPackage.ofHeader type header checksum body).setChecksum
        (header.computeChecksum body).checksum.toNat).buildHeaderBytes none =
          .ok (header.setChecksum (header.computeChecksum body).checksum).bytes :=
      pack_fields sameType _
    rw [IcmpPackage.toBytes, stored]
    unfold IcmpHeader.computeChecksum
    rw [(header.setChecksum_fields _).2.2.2.2]
    rfl

end Agreement

/-- The request of both programs with identifier seven and an odd body. -/
def oddRequest : IcmpHeader :=
  ((IcmpHeader.zero.setType 8).setIdentifier 7).setSequenceNumber 1

theorem calculateChecksum_agrees_odd :
    (IcmpPackage.ofHeader .echoRequest oddRequest 0 [1, 2, 255]).calculateChecksum =
        .ok ((oddRequest.computeChecksum [1, 2, 255]).checksum.toNat : Int) ∧
      ((IcmpPackage.ofHeader .echoRequest oddRequest 0 [1, 2, 255]).setChecksum
        (oddRequest.computeChecksum [1, 2, 255]).checksum.toNat).toBytes =
          .ok ((oddRequest.computeChecksum [1, 2, 255]).bytes ++ [1, 2, 255]) :=
  calculateChecksum_agrees (by decide) 0 [1, 2, 255] (by decide)

end NetworkTools
