/-
This file proves that the checksum of the Python client is the internet checksum.
-/

import NetworkTools.Library.OnesComplement
import NetworkTools.Proof.Checksum.Agreement
import NetworkTools.Proof.Package.Codec

namespace NetworkTools
open Library

namespace IcmpPackage

def headerWords (header : Header) (checksum : Int) : List Nat :=
  [header.type.value * 256 + header.code.toNat, checksum.toNat, header.identifier.toNat,
    header.sequence.toNat]

theorem coveredSum_setChecksum (package : IcmpPackage) (checksum : Int) :
    (package.setChecksum checksum).coveredSum = package.coveredSum := by
  simp only [coveredSum, setChecksum]

section Words

theorem split_word (value : Nat) (inside : value < 65536) :
    (UInt8.ofNat (value / 256)).toNat * 256 + (UInt8.ofNat value).toNat = value := by
  rw [UInt8.toNat_ofNat', UInt8.toNat_ofNat']
  omega

/-- The packed header has four words, and each field fits. -/
theorem pack_headerFields {header : Header} {checksum : Int} {bytes : List UInt8}
    (packed : pack (headerFields header checksum) = .ok bytes) :
    (0 ≤ header.code ∧ header.code ≤ 255) ∧ (0 ≤ checksum ∧ checksum ≤ 65535) ∧
      (0 ≤ header.identifier ∧ header.identifier ≤ 65535) ∧
      (0 ≤ header.sequence ∧ header.sequence ≤ 65535) ∧
      bytes.length = 8 ∧ words bytes = headerWords header checksum := by
  obtain ⟨_, _, typeInside, fields, rfl⟩ := pack_eq_ok_cons packed
  obtain ⟨_, code, codeInside, numbers, rfl⟩ := pack_eq_ok_cons fields
  obtain ⟨_, checksum0, checksumInside, identity, rfl⟩ := pack_eq_ok_cons numbers
  obtain ⟨_, identifier, identifierInside, last, rfl⟩ := pack_eq_ok_cons identity
  obtain ⟨_, sequence, sequenceInside, empty, rfl⟩ := pack_eq_ok_cons last
  obtain rfl := Except.ok.inj empty
  simp only [StructFormat.limit] at typeInside codeInside
  simp only [StructFormat.limit] at checksumInside identifierInside sequenceInside
  refine ⟨⟨code, by omega⟩, ⟨checksum0, by omega⟩, ⟨identifier, by omega⟩, ⟨sequence, by omega⟩,
    ?_, ?_⟩
  · simp [bigEndian_length, StructFormat.size]
  · have byte (value : Nat) (inside : value < 256) : (UInt8.ofNat value).toNat = value := by
      rw [UInt8.toNat_ofNat']
      omega
    rw [Int.toNat_natCast] at typeInside
    simp only [StructFormat.size, bigEndian_two, bigEndian, List.nil_append, List.cons_append,
      List.append_nil, words, Int.toNat_natCast, byte _ typeInside, byte _ codeInside,
      split_word _ checksumInside, split_word _ identifierInside, split_word _ sequenceInside,
      headerWords]

end Words

section Sums

variable {package : IcmpPackage} {bytes : List UInt8}

/-- Only a package whose fields fit can be encoded. -/
theorem inRange_of_toBytes (encoded : package.toBytes = .ok bytes) : package.InRange := by
  obtain ⟨headerBytes, packed, _⟩ := toBytes_eq_ok_iff.mp encoded
  obtain ⟨code, checksum, identifier, sequence, _⟩ := pack_headerFields packed
  exact ⟨code, checksum, identifier, sequence⟩

/-- The words of an encoded package are the words of its header and of its data. -/
theorem words_toBytes (encoded : package.toBytes = .ok bytes) :
    words bytes = headerWords package.header package.header.checksum ++ words package.data := by
  obtain ⟨headerBytes, packed, rfl⟩ := toBytes_eq_ok_iff.mp encoded
  obtain ⟨_, _, _, _, length, same⟩ := pack_headerFields packed
  rw [words_append _ _ (by omega), same]

theorem length_toBytes (encoded : package.toBytes = .ok bytes) :
    bytes.length = 8 + package.data.length := by
  obtain ⟨headerBytes, packed, rfl⟩ := toBytes_eq_ok_iff.mp encoded
  obtain ⟨_, _, _, _, length, _⟩ := pack_headerFields packed
  rw [List.length_append, length]

/-- The encoded package adds its checksum to the covered sum. -/
theorem wordSum_toBytes (encoded : package.toBytes = .ok bytes) :
    wordSum bytes = package.coveredSum + package.header.checksum.toNat := by
  rw [wordSum_eq_foldr, words_toBytes encoded, List.foldr_append, ← wordSum_eq_foldr]
  simp only [headerWords, List.foldr_cons, List.foldr_nil, coveredSum]
  omega

/-- The checksum is the folded complement of the covered sum. -/
theorem calculateChecksum_eq (inRange : package.InRange) :
    package.calculateChecksum = .ok (complement (foldCarries package.coveredSum) : Nat) := by
  have zeroed : (package.setChecksum 0).InRange :=
    ⟨inRange.code, ⟨Int.le_refl 0, Int.le.intro 65535 rfl⟩, inRange.identifier, inRange.sequence⟩
  obtain ⟨bytes, encoded⟩ := toBytes_of_inRange zeroed
  obtain ⟨headerBytes, packed, rfl⟩ := toBytes_eq_ok_iff.mp encoded
  have built : package.buildHeaderBytes (some 0) = .ok headerBytes := packed
  have sum := wordSum_toBytes encoded
  rw [coveredSum_setChecksum] at sum
  have stored : (package.setChecksum 0).header.checksum.toNat = 0 := by
    simp only [setChecksum, Int.toNat_zero]
  rw [calculateChecksum, built]
  change Except.ok (computeChecksum (headerBytes ++ (package.setChecksum 0).data)) = _
  rw [computeChecksum_eq, sum, stored, Nat.add_zero]

/-- A package is valid exactly when its code is listed and its checksum is the computed one. -/
theorem validate_eq (inRange : package.InRange) :
    package.validate = .ok (decide (
      package.header.code ∈ validTypeCodeCombinations package.header.type ∧
        package.header.checksum = (complement (foldCarries package.coveredSum) : Nat))) := by
  rw [validate, calculateChecksum_eq inRange]
  by_cases listed : package.header.code ∈ validTypeCodeCombinations package.header.type
  · rw [if_neg (fun missing => missing listed)]
    simp only [listed, true_and]
    rfl
  · rw [if_pos listed]
    simp only [listed, false_and, decide_false]

end Sums

section Requests

/-- The request before its checksum is stored. -/
def uncheckedRequest (timestamp : Vector UInt8 8) (identifier : Option Int) (sequence : Int)
    (data : Option (List UInt8)) : IcmpPackage :=
  ⟨⟨.echoRequest, 0, 0, identifier.getD 12345, sequence⟩, echoData timestamp data⟩

variable {timestamp : Vector UInt8 8} {identifier : Option Int} {sequence : Int}
  {data : Option (List UInt8)} {package : IcmpPackage} {bytes : List UInt8}

/-- A request is created exactly when its identity fits, and it carries its own checksum. -/
theorem createEchoRequest_eq_ok_iff :
    createEchoRequest timestamp identifier sequence data = .ok package ↔
      (uncheckedRequest timestamp identifier sequence data).InRange ∧
        package = (uncheckedRequest timestamp identifier sequence data).setChecksum
          (complement (foldCarries
            (uncheckedRequest timestamp identifier sequence data).coveredSum) : Nat) := by
  have created : createEchoRequest timestamp identifier sequence data =
      (uncheckedRequest timestamp identifier sequence data).calculateChecksum.map
        (uncheckedRequest timestamp identifier sequence data).setChecksum := by
    rw [createEchoRequest, ← uncheckedRequest]
    cases (uncheckedRequest timestamp identifier sequence data).calculateChecksum <;> rfl
  rw [created]
  apply Iff.intro
  · intro isCreated
    have inRange : (uncheckedRequest timestamp identifier sequence data).InRange := by
      cases built : (uncheckedRequest timestamp identifier sequence data).buildHeaderBytes
          (some 0) with
      | error what =>
          rw [calculateChecksum, built] at isCreated
          simp [bind, Except.bind, Except.map] at isCreated
      | ok headerBytes =>
          obtain ⟨code, checksum, identity, number, _⟩ := pack_headerFields built
          exact ⟨code, checksum, identity, number⟩
    rw [calculateChecksum_eq inRange] at isCreated
    exact ⟨inRange, (Except.ok.inj isCreated).symm⟩
  · intro fits
    obtain ⟨inRange, rfl⟩ := fits
    rw [calculateChecksum_eq inRange]
    rfl

/-- A created request has the type and code of an echo request and the computed checksum. -/
theorem created_fields
    (created : createEchoRequest timestamp identifier sequence data = .ok package) :
    package.InRange ∧ package.header.type = .echoRequest ∧ package.header.code = 0 ∧
      package.header.checksum = (complement (foldCarries package.coveredSum) : Nat) ∧
      package.data = echoData timestamp data := by
  obtain ⟨inRange, rfl⟩ := createEchoRequest_eq_ok_iff.mp created
  rw [coveredSum_setChecksum]
  refine ⟨⟨inRange.code, ⟨Int.natCast_nonneg _, ?_⟩, inRange.identifier, inRange.sequence⟩,
    rfl, rfl, rfl, rfl⟩
  simp only [setChecksum, complement]
  omega

/-- The covered sum of an echo request is not empty. -/
theorem coveredSum_pos (isRequest : package.header.type = .echoRequest) :
    2048 ≤ package.coveredSum := by
  rw [coveredSum, isRequest]
  simp only [IcmpType.value]
  omega

/-- The message length keeps the covered sum within thirty-two bits. -/
theorem coveredSum_lt (encoded : package.toBytes = .ok bytes)
    (size : bytes.length ≤ 65535) : package.coveredSum < 4294967296 := by
  have sum := wordSum_toBytes encoded
  have bound := wordSum_le bytes
  omega

end Requests

/-- The Python checksum folds after each addition, and it verifies each created request. -/
theorem computeChecksum_internet :
    (∀ message : List UInt8, message.length ≤ 65535 →
      computeChecksum message = (complement (endAroundSum message) : Nat) ∧
        0 ≤ computeChecksum message ∧ computeChecksum message ≤ 65535) ∧
    ∀ (timestamp : Vector UInt8 8) (identifier : Option Int) (sequence : Int)
      (data : Option (List UInt8)) (package : IcmpPackage),
      createEchoRequest timestamp identifier sequence data = .ok package →
        ∃ bytes, package.toBytes = .ok bytes ∧
          (bytes.length ≤ 65535 → computeChecksum bytes = 0) := by
  have folds (message : List UInt8) (size : message.length ≤ 65535) :
      complement (foldCarries (wordSum message)) = complement (endAroundSum message) := by
    have bound := wordSum_le message
    have small := residue_le (wordSum message)
    rw [complement_foldCarries _ (by omega), endAroundSum_eq, complement]
    omega
  apply And.intro
  · intro message size
    rw [computeChecksum_eq, folds message size]
    have bound : complement (endAroundSum message) ≤ 65535 := Nat.sub_le _ _
    exact ⟨rfl, Int.natCast_nonneg _, Int.ofNat_le.mpr bound⟩
  · intro timestamp identifier sequence data package created
    obtain ⟨inRange, isRequest, _, checksum, _⟩ := created_fields created
    obtain ⟨bytes, encoded⟩ := toBytes_of_inRange inRange
    refine ⟨bytes, encoded, fun size => ?_⟩
    have positive := coveredSum_pos isRequest
    have sum := wordSum_toBytes encoded
    have stored : package.header.checksum.toNat = 65535 - residue package.coveredSum := by
      rw [checksum, complement_foldCarries _ (coveredSum_lt encoded size), Int.toNat_natCast]
    rw [computeChecksum_eq, folds bytes size, endAroundSum_eq, sum, stored,
      residue_complement (by omega)]
    rfl

end IcmpPackage
end NetworkTools
