/-
This file proves that a validated package detects each corruption of one word.
-/

import NetworkTools.Proof.Package.Checksum

namespace NetworkTools
open Library

namespace IcmpPackage

/-- The words behind the checksum. -/
def tailWords (package : IcmpPackage) : List Nat :=
  package.header.identifier.toNat :: package.header.sequence.toNat :: words package.data

/-- The first word of the header. -/
def typeWord (package : IcmpPackage) : Nat :=
  package.header.type.value * 256 + package.header.code.toNat

section Words

variable {package : IcmpPackage} {bytes : List UInt8}

theorem words_eq_cons (encoded : package.toBytes = .ok bytes) :
    words bytes = package.typeWord :: package.header.checksum.toNat :: package.tailWords := by
  rw [words_toBytes encoded]
  rfl

theorem coveredSum_eq (package : IcmpPackage) :
    package.coveredSum = package.typeWord + package.tailWords.foldr (· + ·) 0 := by
  simp only [coveredSum, typeWord, tailWords, List.foldr_cons, ← wordSum_eq_foldr]
  omega

/-- The first word of a package in range determines its type and its code. -/
theorem typeWord_inj {other : IcmpPackage} (inRange : package.InRange)
    (otherInRange : other.InRange) (same : package.typeWord = other.typeWord) :
    package.header.type = other.header.type ∧ package.header.code = other.header.code := by
  have code := inRange.code
  have otherCode := otherInRange.code
  have value : package.header.type.value = other.header.type.value := by
    simp only [typeWord] at same
    omega
  have known := IcmpType.ofValue_value package.header.type
  rw [value, IcmpType.ofValue_value] at known
  refine ⟨(Option.some.inj known).symm, ?_⟩
  simp only [typeWord] at same
  omega

end Words

section Corruption

variable {package received : IcmpPackage} {bytes corrupted : List UInt8} {index : Nat}
  (inRange : package.InRange) (isRequest : package.header.type = .echoRequest)
  (code : package.header.code = 0)
  (checksum : package.header.checksum = (complement (foldCarries package.coveredSum) : Nat))

include inRange isRequest code checksum

/-- The receiver accepts the request itself. -/
theorem validate_created : package.validate = .ok true := by
  rw [validate_eq inRange, ← checksum, isRequest, code]
  exact congrArg Except.ok (decide_eq_true ⟨List.mem_singleton.mpr rfl, rfl⟩)

variable (encoded : package.toBytes = .ok bytes) (size : bytes.length ≤ 65535)

include encoded size

/-- The receiver accepts a request with one changed word exactly after a swap of zeros. -/
theorem validate_changed (decoded : fromBytes corrupted = .ok received)
    (differ : DifferOnlyAt index (words bytes) (words corrupted)) {before after : Nat}
    (isBefore : (words bytes)[index]? = some before)
    (isAfter : (words corrupted)[index]? = some after) :
    received.validate = .ok (decide (2 ≤ index ∧ ZeroSwap before after)) := by
  have again := toBytes_of_fromBytes decoded
  have receivedInRange := inRange_of_toBytes again
  have positive := coveredSum_pos isRequest
  have bound := coveredSum_lt encoded size
  have limit := wordSum_le bytes
  have sum := wordSum_toBytes encoded
  have split := coveredSum_eq package
  have receivedSplit := coveredSum_eq received
  have firstWord : package.typeWord = 2048 := by
    rw [typeWord, isRequest, code]
    rfl
  have afterInside := words_le corrupted after (List.mem_of_getElem? isAfter)
  have beforeInside := words_le bytes before (List.mem_of_getElem? isBefore)
  have fields := receivedInRange.checksum
  have ownFields := inRange.checksum
  rw [words_eq_cons encoded, words_eq_cons again] at differ
  rw [words_eq_cons encoded] at isBefore
  rw [words_eq_cons again] at isAfter
  rw [validate_eq receivedInRange]
  congr 2
  apply propext
  match index with
  | 0 =>
      -- A changed type word keeps the checksum but not the residue of the covered sum.
      obtain ⟨distinct, tails⟩ := (differOnlyAt_zero_cons_iff _ _ _ _).mp differ
      obtain ⟨sameChecksum, sameTail⟩ := List.cons.inj tails
      obtain rfl := Option.some.inj isAfter
      rw [← sameTail] at receivedSplit
      simp only [show ¬ 2 ≤ 0 by decide, false_and, iff_false, not_and]
      intro _ accepted
      have equal : complement (foldCarries package.coveredSum) =
          complement (foldCarries received.coveredSum) := by omega
      rw [complement_foldCarries_eq_iff bound (by omega), residue_eq_iff] at equal
      omega
  | 1 =>
      -- A changed checksum meets an unchanged covered sum.
      obtain ⟨sameType, later⟩ := (differOnlyAt_succ_cons_iff _ _ _ _ _).mp differ
      obtain ⟨distinct, sameTail⟩ := (differOnlyAt_zero_cons_iff _ _ _ _).mp later
      rw [← sameTail, ← sameType, ← split] at receivedSplit
      rw [receivedSplit]
      simp only [show ¬ 2 ≤ 1 by decide, false_and, iff_false, not_and]
      intro _ accepted
      omega
  | index + 2 =>
      -- The type and the checksum are unchanged, so the residues decide.
      obtain ⟨sameType, later⟩ := (differOnlyAt_succ_cons_iff _ _ _ _ _).mp differ
      obtain ⟨sameChecksum, tail⟩ := (differOnlyAt_succ_cons_iff _ _ _ _ _).mp later
      obtain ⟨first, second, isFirst, isSecond, distinct, least, sums⟩ := foldr_differOnlyAt tail
      obtain rfl := Option.some.inj (isFirst.symm.trans isBefore)
      obtain rfl := Option.some.inj (isSecond.symm.trans isAfter)
      obtain ⟨type, receivedCode⟩ := typeWord_inj inRange receivedInRange sameType
      have listed : received.header.code ∈ validTypeCodeCombinations received.header.type := by
        rw [← type, ← receivedCode, isRequest, code]
        exact List.mem_singleton.mpr rfl
      have equal : received.header.checksum =
            (complement (foldCarries received.coveredSum) : Nat) ↔
          complement (foldCarries received.coveredSum) =
            complement (foldCarries package.coveredSum) := by omega
      rw [equal, complement_foldCarries_eq_iff (by omega) bound,
        residue_changed_iff distinct beforeInside afterInside (by omega) (by omega)]
      simp only [listed, true_and, Nat.le_add_left]

end Corruption

/-- The receiver accepts a created request, and it accepts a copy with one changed word exactly
when an identity or data word swaps the zeros. It rejects each inverted bit. -/
theorem validate_corrupted (timestamp : Vector UInt8 8) (identifier : Option Int) (sequence : Int)
    (data : Option (List UInt8))
    (identifierFits : ∀ value, identifier = some value → 0 ≤ value ∧ value ≤ 65535)
    (sequenceFits : 0 ≤ sequence ∧ sequence ≤ 65535)
    (size : 8 + (echoData timestamp data).length ≤ 65515) :
    ∃ package bytes, createEchoRequest timestamp identifier sequence data = .ok package ∧
      package.toBytes = .ok bytes ∧
      (∃ received, fromBytes bytes = .ok received ∧ received.validate = .ok true) ∧
      (∀ corrupted received index before after,
        DifferOnlyAt index (words bytes) (words corrupted) →
        (words bytes)[index]? = some before → (words corrupted)[index]? = some after →
        fromBytes corrupted = .ok received →
          received.validate = .ok (decide (2 ≤ index ∧ ZeroSwap before after))) ∧
      ∀ index bit received, index < bytes.length → bit < 8 →
        fromBytes (flipBit bytes index bit) = .ok received → received.validate = .ok false := by
  have identity : 0 ≤ identifier.getD 12345 ∧ identifier.getD 12345 ≤ 65535 := by
    cases identifier with
    | none => exact ⟨by decide, by decide⟩
    | some value => exact identifierFits value rfl
  have fits : (uncheckedRequest timestamp identifier sequence data).InRange :=
    ⟨⟨Int.le_refl 0, Int.le.intro 255 rfl⟩, ⟨Int.le_refl 0, Int.le.intro 65535 rfl⟩, identity,
      sequenceFits⟩
  have created := createEchoRequest_eq_ok_iff.mpr ⟨fits, rfl⟩
  obtain ⟨inRange, isRequest, code, checksum, isData⟩ := created_fields created
  obtain ⟨bytes, encoded⟩ := toBytes_of_inRange inRange
  have small : bytes.length ≤ 65535 := by
    rw [length_toBytes encoded, isData]
    omega
  refine ⟨_, bytes, created, encoded, ⟨_, fromBytes_of_toBytes encoded,
    validate_created inRange isRequest code checksum⟩, ?_, ?_⟩
  · intro corrupted received index before after differ isBefore isAfter decoded
    exact validate_changed inRange isRequest code checksum encoded small decoded differ
      isBefore isAfter
  · intro index bit received inside bitInside decoded
    have here := List.getElem?_eq_getElem inside
    rw [flipBit_eq_set bit here] at decoded
    obtain ⟨differ, noSwap⟩ := words_set here (xor_bit_ne bytes[index] bitInside)
    obtain ⟨before, after, isBefore, isAfter, _⟩ := foldr_differOnlyAt differ
    rw [validate_changed inRange isRequest code checksum encoded small decoded differ
      isBefore isAfter]
    simp only [noSwap before after isBefore isAfter, and_false, decide_false]

/-- A request with explicit data meets the bounds. -/
theorem validate_corrupted_explicit :
    ∃ package bytes,
      createEchoRequest (Vector.replicate 8 0) (some 7) 1 (some [1, 2, 255]) = .ok package ∧
      package.toBytes = .ok bytes ∧
      ∃ received, fromBytes bytes = .ok received ∧ received.validate = .ok true := by
  obtain ⟨package, bytes, created, encoded, accepted, _⟩ := validate_corrupted
    (Vector.replicate 8 0) (some 7) 1 (some [1, 2, 255])
    (fun value isValue => by obtain rfl := Option.some.inj isValue; decide) (by decide) (by decide)
  exact ⟨package, bytes, created, encoded, accepted⟩

end IcmpPackage
end NetworkTools
