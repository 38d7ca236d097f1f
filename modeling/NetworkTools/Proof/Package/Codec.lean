/-
This file proves that the encoder and the decoder of ICMP packages are inverse to each other.
-/

import NetworkTools.Specification.Package

namespace NetworkTools
open Library

namespace IcmpPackage

/-- The fields of the header in the order of the format string. -/
def headerFields (header : Header) (checksum : Int) : List (StructFormat × Int) :=
  [(.ubyte, header.type.value), (.ubyte, header.code), (.ushort, checksum),
    (.ushort, header.identifier), (.ushort, header.sequence)]

theorem value_lt (type : IcmpType) : type.value < 256 := by
  cases type <;> decide

section Encoding

variable {package : IcmpPackage} {bytes : List UInt8}

/-- The encoder puts the packed header in front of the data. -/
theorem toBytes_eq_ok_iff :
    package.toBytes = .ok bytes ↔
      ∃ headerBytes, pack (headerFields package.header package.header.checksum) =
        .ok headerBytes ∧ bytes = headerBytes ++ package.data := by
  have built : package.buildHeaderBytes none =
      pack (headerFields package.header package.header.checksum) := rfl
  rw [toBytes, built]
  cases pack (headerFields package.header package.header.checksum) with
  | error what => simp [bind, Except.bind]
  | ok headerBytes => simp [bind, Except.bind, pure, Except.pure, eq_comm]

/-- The encoder succeeds on each package whose fields fit. -/
theorem toBytes_of_inRange (inRange : package.InRange) :
    ∃ bytes, package.toBytes = .ok bytes := by
  obtain ⟨⟨type, code, checksum, identifier, sequence⟩, data⟩ := package
  obtain ⟨⟨code0, codeMax⟩, ⟨checksum0, checksumMax⟩, ⟨identifier0, identifierMax⟩,
    ⟨sequence0, sequenceMax⟩⟩ := inRange
  obtain ⟨code, rfl⟩ := Int.eq_ofNat_of_zero_le code0
  obtain ⟨checksum, rfl⟩ := Int.eq_ofNat_of_zero_le checksum0
  obtain ⟨identifier, rfl⟩ := Int.eq_ofNat_of_zero_le identifier0
  obtain ⟨sequence, rfl⟩ := Int.eq_ofNat_of_zero_le sequence0
  simp only at codeMax checksumMax identifierMax sequenceMax
  have short (n : Nat) (inside : (n : Int) ≤ 65535) : n < StructFormat.ushort.limit := by
    simp only [StructFormat.limit]
    omega
  have byte : code < StructFormat.ubyte.limit := by
    simp only [StructFormat.limit]
    omega
  exact ⟨_, toBytes_eq_ok_iff.mpr ⟨_, pack_cons (value_lt type) (pack_cons byte
    (pack_cons (short checksum checksumMax) (pack_cons (short identifier identifierMax)
      (pack_cons (short sequence sequenceMax) rfl)))), rfl⟩⟩

/-- Decoding the encoded bytes gives back the package. -/
theorem fromBytes_of_toBytes (encoded : package.toBytes = .ok bytes) :
    fromBytes bytes = .ok package := by
  obtain ⟨headerBytes, packed, rfl⟩ := toBytes_eq_ok_iff.mp encoded
  obtain ⟨values, unpacked, same⟩ := unpack_pack packed
  have length : headerBytes.length = 8 := by
    unfold unpack at unpacked
    split at unpacked
    · next length => exact length
    · simp at unpacked
  have front : (headerBytes ++ package.data).take 8 = headerBytes := List.take_left' length
  have back : (headerBytes ++ package.data).drop 8 = package.data := List.drop_left' length
  have enough : ¬ (headerBytes ++ package.data).length < 8 := by
    rw [List.length_append]
    omega
  simp only [headerFields, List.map_cons, List.map_nil, List.map_eq_cons_iff,
    List.map_eq_nil_iff] at same
  obtain ⟨type, _, rfl, sameType, code, _, rfl, sameCode, checksum, _, rfl, sameChecksum,
    identifier, _, rfl, sameIdentifier, sequence, _, rfl, sameSequence, rfl⟩ := same
  have known : IcmpType.ofValue type = some package.header.type :=
    (IcmpType.ofValue_eq_some_iff _ _).mpr (Int.ofNat.inj sameType).symm
  simp only [headerFields, List.map_cons, List.map_nil] at unpacked
  rw [fromBytes, if_neg enough, front, back, unpacked]
  simp only [known]
  obtain ⟨⟨_, _, _, _, _⟩, _⟩ := package
  simp only at sameCode sameChecksum sameIdentifier sameSequence
  rw [← sameCode, ← sameChecksum, ← sameIdentifier, ← sameSequence]
  rfl

end Encoding

section Decoding

variable {package : IcmpPackage} {bytes : List UInt8}

/-- A long enough message has five header values, and the first one is its first byte. -/
theorem unpack_header (enough : 8 ≤ bytes.length) :
    ∃ first code checksum identifier sequence,
      unpack [.ubyte, .ubyte, .ushort, .ushort, .ushort] (bytes.take 8) =
        .ok [first, code, checksum, identifier, sequence] ∧
      ∃ byte : UInt8, bytes[0]? = some byte ∧ first = byte.toNat := by
  have length : (bytes.take 8).length = 8 := by
    rw [List.length_take]
    omega
  match bytes with
  | byte :: rest =>
      refine ⟨_, _, _, _, _, if_pos length, byte, rfl, ?_⟩
      simp only [StructFormat.size, List.take_succ_cons, List.take_zero, ofBigEndian,
        List.foldl_cons, List.foldl_nil, Nat.zero_mul, Nat.zero_add]

/-- A decoded package is the packed header of the message and its tail. -/
theorem toBytes_of_fromBytes (decoded : fromBytes bytes = .ok package) :
    package.toBytes = .ok bytes := by
  unfold fromBytes at decoded
  split at decoded
  · simp at decoded
  · next enough =>
      obtain ⟨first, code, checksum, identifier, sequence, unpacked, _⟩ :=
        unpack_header (Nat.le_of_not_lt enough)
      simp only [unpacked] at decoded
      split at decoded
      · simp at decoded
      · next type known =>
          obtain rfl := Except.ok.inj decoded
          have packed := pack_unpack unpacked
          rw [← (IcmpType.ofValue_eq_some_iff _ _).mp known] at packed
          exact toBytes_eq_ok_iff.mpr ⟨_, packed, (List.take_append_drop 8 bytes).symm⟩

/-- The decoder succeeds exactly on the format. -/
theorem fromBytes_succeeds_iff :
    (∃ package, fromBytes bytes = .ok package) ↔ WellFormed bytes := by
  by_cases enough : 8 ≤ bytes.length
  · obtain ⟨first, code, checksum, identifier, sequence, unpacked, byte, isFirst, rfl⟩ :=
      unpack_header enough
    rw [fromBytes, if_neg (Nat.not_lt.mpr enough), unpacked, WellFormed, isFirst]
    simp only [enough, true_and, Option.some.injEq]
    apply Iff.intro
    · intro succeeds
      obtain ⟨package, decoded⟩ := succeeds
      split at decoded
      · simp at decoded
      · next type known =>
          refine ⟨type, ?_⟩
          rw [(IcmpType.ofValue_eq_some_iff _ _).mp known, UInt8.ofNat_toNat]
    · intro wellFormed
      obtain ⟨type, same⟩ := wellFormed
      have value : byte.toNat = type.value := by
        rw [same, UInt8.toNat_ofNat', Nat.mod_eq_of_lt (value_lt type)]
      rw [value, IcmpType.ofValue_value]
      exact ⟨_, rfl⟩
  · apply Iff.intro
    · intro succeeds
      obtain ⟨package, decoded⟩ := succeeds
      rw [fromBytes, if_pos (Nat.lt_of_not_le enough)] at decoded
      simp at decoded
    · exact fun wellFormed => absurd wellFormed.1 enough

end Decoding

/-- The encoder and the decoder are inverse bijections of the packages and the format. -/
theorem codec_bijective :
    (∀ package : IcmpPackage, package.InRange →
      ∃ bytes, package.toBytes = .ok bytes ∧ fromBytes bytes = .ok package) ∧
    ∀ bytes : List UInt8,
      ((∃ package, fromBytes bytes = .ok package) ↔
        8 ≤ bytes.length ∧ ∃ type : IcmpType, bytes[0]? = some (UInt8.ofNat type.value)) ∧
      ∀ package, fromBytes bytes = .ok package → package.toBytes = .ok bytes := by
  apply And.intro
  · intro package inRange
    obtain ⟨bytes, encoded⟩ := toBytes_of_inRange inRange
    exact ⟨bytes, encoded, fromBytes_of_toBytes encoded⟩
  · intro bytes
    exact ⟨fromBytes_succeeds_iff, fun package => toBytes_of_fromBytes⟩

end IcmpPackage
end NetworkTools
