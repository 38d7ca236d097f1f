/-
This file proves that the validation of a package agrees with the test of a receiver.
-/

import NetworkTools.Proof.Package.Checksum

namespace NetworkTools
open Library

namespace IcmpPackage

variable {bytes : List UInt8} {package : IcmpPackage}

/-- The receiver sums the whole message with its checksum. -/
theorem computeChecksum_eq_zero_iff (encoded : package.toBytes = .ok bytes)
    (size : bytes.length ≤ 65535) :
    computeChecksum bytes = 0 ↔
      residue (package.coveredSum + package.header.checksum.toNat) = 65535 := by
  have bound := wordSum_le bytes
  have small := residue_le (wordSum bytes)
  rw [computeChecksum_eq, complement_foldCarries _ (by omega), ← wordSum_toBytes encoded]
  omega

/-- The validation of a decoded message accepts the listed codes whose message sums to zero, except
that it rejects a stored negative zero unless all other words are zero. -/
theorem validate_receiver (decoded : fromBytes bytes = .ok package)
    (size : bytes.length ≤ 65535) :
    package.validate = .ok (decide (
      package.header.code ∈ validTypeCodeCombinations package.header.type ∧
        computeChecksum bytes = 0 ∧
          (package.header.checksum = 65535 → package.coveredSum = 0))) := by
  have encoded := toBytes_of_fromBytes decoded
  have inRange := inRange_of_toBytes encoded
  have fields := inRange.checksum
  have stored : package.header.checksum.toNat ≤ 65535 := by omega
  have own : package.header.checksum = ((65535 - residue package.coveredSum : Nat) : Int) ↔
      package.header.checksum.toNat = 65535 - residue package.coveredSum := by omega
  have negativeZero : package.header.checksum = 65535 ↔
      package.header.checksum.toNat = 65535 := by omega
  rw [validate_eq inRange, complement_foldCarries _ (coveredSum_lt encoded size)]
  congr 2
  apply propext
  apply and_congr_right
  intro _
  rw [own, stored_complement_iff stored, computeChecksum_eq_zero_iff encoded size, negativeZero]

/-- A received echo reply with its checksum. -/
def validReply : List UInt8 := [0, 0, 254, 248, 0, 7, 0, 0, 1]

theorem validate_receiver_reply :
    ∃ package, fromBytes validReply = .ok package ∧
      package.validate = .ok (decide (
        package.header.code ∈ validTypeCodeCombinations package.header.type ∧
          computeChecksum validReply = 0 ∧
            (package.header.checksum = 65535 → package.coveredSum = 0))) := by
  have decoded : fromBytes validReply = .ok ⟨⟨.echoReply, 0, 65272, 7, 0⟩, [1]⟩ := by
    decide +kernel
  exact ⟨_, decoded, validate_receiver decoded (by decide)⟩

end IcmpPackage
end NetworkTools
