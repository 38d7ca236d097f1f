/-
This file proves that the ICMP codecs of both programs read and write the same format.
-/

import NetworkTools.Proof.Checksum.Agreement
import NetworkTools.Proof.Package.Codec

namespace NetworkTools
open Library

/-- The extraction succeeds exactly on the bytes of a header in front of the rest. -/
theorem icmpExtract_iff {bytes rest : List UInt8} {header : IcmpHeader} :
    IcmpHeader.extract ⟨bytes, true⟩ .zero = (header, ⟨rest, true⟩) ↔
      bytes = header.bytes ++ rest := by
  have eight (header : IcmpHeader) : header.bytes.length = 8 := by
    rw [IcmpHeader.bytes, Vector.length_toList]
  have extracted (enough : 8 ≤ bytes.length) {front : IcmpHeader}
      (isFront : front.bytes = bytes.take 8) :
      IcmpHeader.extract ⟨bytes, true⟩ .zero = (front, ⟨bytes.drop 8, true⟩) := by
    rw [IcmpHeader.extract, InputStream.read_full bytes 8 enough, ← isFront, IcmpHeader.bytes]
    simp only [store_toList]
  apply Iff.intro
  · intro reads
    have enough : 8 ≤ bytes.length := by
      by_contra short
      rw [IcmpHeader.extract, InputStream.read_short bytes 8 (by omega)] at reads
      cases reads
    have length : (bytes.take 8).length = 8 := List.length_take_of_le enough
    obtain ⟨front, isFront⟩ : ∃ front : IcmpHeader, front.bytes = bytes.take 8 :=
      ⟨⟨⟨(bytes.take 8).toArray, length⟩⟩, rfl⟩
    rw [extracted enough isFront] at reads
    obtain ⟨rfl, isStream⟩ := Prod.mk.inj reads
    obtain ⟨rfl, _⟩ := InputStream.mk.inj isStream
    rw [isFront, List.take_append_drop]
  · intro isBytes
    have enough : 8 ≤ bytes.length := by
      rw [isBytes, List.length_append, eight]
      exact Nat.le_add_right 8 _
    have front : bytes.take 8 = header.bytes := by rw [isBytes, List.take_left' (eight header)]
    have back : bytes.drop 8 = rest := by rw [isBytes, List.drop_left' (eight header)]
    rw [extracted enough front.symm, back]

/-- The Python decoder gives back what a header in front of a body says. -/
theorem fromBytes_header {type : IcmpType} {header : IcmpHeader}
    (sameType : header.type.toNat = type.value) (body : List UInt8) :
    IcmpPackage.fromBytes (header.bytes ++ body) =
      .ok (IcmpPackage.ofHeader type header header.checksum.toNat body) := by
  apply IcmpPackage.fromBytes_of_toBytes
  have same : header.setChecksum header.checksum = header := by
    have bytes : (header.setChecksum header.checksum).bytes = header.bytes := by
      obtain ⟨type, code, identifier, sequence, checksum⟩ :=
        header.setChecksum_fields header.checksum
      rw [IcmpHeader.bytes_eq, type, code, identifier, sequence, checksum, ← IcmpHeader.bytes_eq]
    cases header
    exact congrArg IcmpHeader.mk (Vector.toList_inj.mp bytes)
  have built := pack_fields sameType header.checksum
  rw [same] at built
  exact IcmpPackage.toBytes_eq_ok_iff.mpr ⟨header.bytes, built, rfl⟩

/-- The Python decoder reads a package exactly where the C++ extraction reads a header of a known
type, and it reads the same fields and leaves the same data. The extraction succeeds exactly on the
bytes that the insertion writes. -/
theorem icmp_codecs_agree (bytes : List UInt8) :
    (∀ package : IcmpPackage, IcmpPackage.fromBytes bytes = .ok package ↔
      ∃ type header rest, IcmpHeader.extract ⟨bytes, true⟩ .zero = (header, ⟨rest, true⟩) ∧
        header.type.toNat = type.value ∧
        package = IcmpPackage.ofHeader type header header.checksum.toNat rest) ∧
    ∀ (header : IcmpHeader) (rest : List UInt8),
      IcmpHeader.extract ⟨bytes, true⟩ .zero = (header, ⟨rest, true⟩) ↔
        bytes = header.bytes ++ rest := by
  refine ⟨fun package => ⟨?_, ?_⟩, fun header rest => icmpExtract_iff⟩
  · intro decoded
    obtain ⟨enough, type, first⟩ := IcmpPackage.fromBytes_succeeds_iff.mp ⟨package, decoded⟩
    have length : (bytes.take 8).length = 8 := List.length_take_of_le enough
    obtain ⟨header, isFront⟩ : ∃ header : IcmpHeader, header.bytes = bytes.take 8 :=
      ⟨⟨⟨(bytes.take 8).toArray, length⟩⟩, rfl⟩
    have whole : bytes = header.bytes ++ bytes.drop 8 := by rw [isFront, List.take_append_drop]
    have sameType : header.type.toNat = type.value := by
      rw [whole, IcmpHeader.bytes_eq] at first
      rw [Option.some.inj first, UInt8.toNat_ofNat',
        Nat.mod_eq_of_lt (IcmpPackage.value_lt type)]
    refine ⟨type, header, bytes.drop 8, icmpExtract_iff.mpr whole, sameType, ?_⟩
    rw [whole, fromBytes_header sameType] at decoded
    exact (Except.ok.inj decoded).symm
  · intro read
    obtain ⟨type, header, rest, extracted, sameType, rfl⟩ := read
    rw [icmpExtract_iff.mp extracted, fromBytes_header sameType]

end NetworkTools
