/-
This file proves that each request of a run is a valid message and what tells two of them apart.
-/

import NetworkTools.Proof.Packet.Icmp
import NetworkTools.Proof.Package.Corruption
import NetworkTools.Proof.Receive.RoundTrip
import NetworkTools.Proof.Run.Transcript
import NetworkTools.Specification.Numbering

namespace NetworkTools
open Library Specification

section Headers

/-- A stored checksum adds itself to the words that it covers. -/
theorem wordSum_bytes (header : IcmpHeader) :
    wordSum header.bytes = wordSum (header.setChecksum 0).bytes + header.checksum.toNat := by
  rw [wordSum_header, IcmpHeader.bytes_eq]
  simp only [wordSum, splitShort]
  omega

theorem bytes_even (header : IcmpHeader) : header.bytes.length % 2 = 0 := by
  rw [IcmpHeader.bytes, Vector.length_toList]

/-- The Python package covers the same words. -/
theorem coveredSum_ofHeader {type : IcmpType} {header : IcmpHeader}
    (sameType : header.type.toNat = type.value) (checksum : Int) (body : List UInt8) :
    (IcmpPackage.ofHeader type header checksum body).coveredSum =
      wordSum ((header.setChecksum 0).bytes ++ body) := by
  rw [wordSum_append _ _ (bytes_even _), wordSum_header, sameType]
  simp only [IcmpPackage.coveredSum, IcmpPackage.ofHeader, Int.toNat_natCast]

variable (header : IcmpHeader) (body : List UInt8)

/-- The checksum update leaves the words that it covers. -/
theorem wordSum_covered :
    wordSum ((header.computeChecksum body).setChecksum 0).bytes =
      wordSum (header.setChecksum 0).bytes := by
  obtain ⟨type, code, identifier, sequence⟩ := header.computeChecksum_fields body
  rw [wordSum_header, wordSum_header, type, code, identifier, sequence]

theorem wordSum_computeChecksum :
    wordSum ((header.computeChecksum body).bytes ++ body) =
      wordSum ((header.setChecksum 0).bytes ++ body) +
        (header.computeChecksum body).checksum.toNat := by
  rw [wordSum_append _ _ (bytes_even _), wordSum_append _ _ (bytes_even _), wordSum_bytes,
    wordSum_covered]
  omega

/-- The checksum of the pinger makes the sum over the message zero, unless all words are zero. -/
theorem computeChecksum_verifies (fits : 8 + body.length ≤ 65515)
    (typed : 0 < header.type.toNat) :
    IcmpPackage.computeChecksum ((header.computeChecksum body).bytes ++ body) = 0 := by
  have size (front : IcmpHeader) : (front.bytes ++ body).length = 8 + body.length := by
    rw [List.length_append, IcmpHeader.bytes, Vector.length_toList]
  have covered := wordSum_le ((header.setChecksum 0).bytes ++ body)
  have whole := wordSum_le ((header.computeChecksum body).bytes ++ body)
  rw [size] at covered whole
  have nonempty : 0 < wordSum ((header.setChecksum 0).bytes ++ body) := by
    rw [wordSum_append _ _ (bytes_even _), wordSum_header]
    omega
  have stored : (header.computeChecksum body).checksum.toNat =
      65535 - residue (wordSum ((header.setChecksum 0).bytes ++ body)) := by
    rw [IcmpHeader.computeChecksum_eq header body fits, complement_foldCarries _ (by omega)]
  rw [IcmpPackage.computeChecksum_eq, complement_foldCarries _ (by omega),
    wordSum_computeChecksum, stored, residue_complement nonempty]
  rfl

end Headers

section Requests

variable (ip : IpType) (identifier : UInt16) (sequenceNumber : Int)

/-- The header of a request before its checksum is stored. -/
def uncheckedHeader : IcmpHeader :=
  (((IcmpHeader.zero.setType ip.echoRequest).setCode 0).setIdentifier identifier).setSequenceNumber
    (UInt16.ofInt sequenceNumber)

theorem uncheckedHeader_fields :
    (uncheckedHeader ip identifier sequenceNumber).type = ip.echoRequest ∧
      (uncheckedHeader ip identifier sequenceNumber).code = 0 ∧
      (uncheckedHeader ip identifier sequenceNumber).identifier = identifier ∧
      (uncheckedHeader ip identifier sequenceNumber).sequenceNumber =
        UInt16.ofInt sequenceNumber := by
  simp [uncheckedHeader]

theorem echoRequestHeader_eq :
    echoRequestHeader ip identifier sequenceNumber =
      (uncheckedHeader ip identifier sequenceNumber).computeChecksum body := rfl

/-- The request reads back as the header that the pinger has filled, and its sum is zero. -/
theorem isPingRequest_requestBytes :
    IsPingRequest ip identifier (sequenceNumber % 65536).toNat
      (requestBytes ip identifier sequenceNumber) := by
  obtain ⟨sameType, sameCode⟩ := echoRequestHeader_kind ip identifier sequenceNumber
  obtain ⟨sameIdentifier, sameSequence⟩ :=
    echoRequestHeader_fields ip identifier sequenceNumber
  constructor
  case reads =>
    refine ⟨_, icmpExtract_iff.mpr rfl, sameType, sameCode, sameIdentifier, ?_⟩
    rw [sameSequence, ofInt_toNat]
  case messageSum =>
    rw [requestBytes, echoRequestHeader_eq]
    apply computeChecksum_verifies
    · decide
    · rw [(uncheckedHeader_fields ip identifier sequenceNumber).1]
      cases ip <;> decide

/-- Two requests of one pinger are equal exactly when their counters agree in the low bits. -/
theorem requestBytes_eq_iff (other : Int) :
    requestBytes ip identifier other = requestBytes ip identifier sequenceNumber ↔
      other % 65536 = sequenceNumber % 65536 := by
  have carried (number : Int) := (isPingRequest_requestBytes ip identifier number).reads
  apply Iff.intro
  · intro same
    obtain ⟨header, reads, _, _, _, number⟩ := carried other
    obtain ⟨again, readsAgain, _, _, _, numberAgain⟩ := carried sequenceNumber
    rw [same, readsAgain] at reads
    obtain ⟨rfl, _⟩ := Prod.mk.inj reads
    omega
  · intro same
    have low : UInt16.ofInt other = UInt16.ofInt sequenceNumber := by
      apply UInt16.toNat_inj.mp
      rw [ofInt_toNat, ofInt_toNat, same]
    simp only [requestBytes, echoRequestHeader, low]

section Python

/-- Both programs have one number for the type of an echo request. -/
theorem echoRequestHeader_type :
    (echoRequestHeader .useIpv4 identifier sequenceNumber).type.toNat =
      IcmpType.echoRequest.value := by
  rw [(echoRequestHeader_kind .useIpv4 identifier sequenceNumber).1]
  decide

variable (timestamp : Vector UInt8 8)

/-- The request of the Python client with the same identity and the same data. -/
def pythonRequest : IcmpPackage :=
  IcmpPackage.uncheckedRequest timestamp (some identifier.toNat) (sequenceNumber % 65536)
    (some body)

theorem pythonRequest_inRange : (pythonRequest identifier sequenceNumber timestamp).InRange := by
  have bound := identifier.toNat_lt
  constructor
  all_goals simp only [pythonRequest, IcmpPackage.uncheckedRequest, Option.getD_some]
  all_goals omega

/-- The header of the pinger has the fields of this request. -/
theorem ofHeader_echoRequestHeader (checksum : Int) :
    IcmpPackage.ofHeader .echoRequest (echoRequestHeader .useIpv4 identifier sequenceNumber)
        checksum body =
      (pythonRequest identifier sequenceNumber timestamp).setChecksum checksum := by
  obtain ⟨_, sameCode⟩ := echoRequestHeader_kind .useIpv4 identifier sequenceNumber
  obtain ⟨sameIdentifier, sameSequence⟩ :=
    echoRequestHeader_fields .useIpv4 identifier sequenceNumber
  have number : ((UInt16.ofInt sequenceNumber).toNat : Int) = sequenceNumber % 65536 := by
    rw [ofInt_toNat]
    omega
  rw [IcmpPackage.ofHeader, sameCode, sameIdentifier, sameSequence, number]
  rfl

/-- The pinger stores the checksum that the Python client computes. -/
theorem checksum_echoRequestHeader :
    (echoRequestHeader .useIpv4 identifier sequenceNumber).checksum.toNat =
      complement (foldCarries (pythonRequest identifier sequenceNumber timestamp).coveredSum) := by
  have covered := coveredSum_ofHeader (echoRequestHeader_type identifier sequenceNumber) 0 body
  rw [ofHeader_echoRequestHeader identifier sequenceNumber timestamp,
    IcmpPackage.coveredSum_setChecksum] at covered
  rw [covered, echoRequestHeader_eq, IcmpHeader.computeChecksum_eq _ body (by decide),
    wordSum_append _ _ (bytes_even _), wordSum_append _ _ (bytes_even _), wordSum_covered]

/-- The Python client builds the same request from the same identity and the same data. -/
theorem requestBytes_created :
    ∃ package, IcmpPackage.createEchoRequest timestamp (some identifier.toNat)
        (sequenceNumber % 65536) (some body) = .ok package ∧
      IcmpPackage.fromBytes (requestBytes .useIpv4 identifier sequenceNumber) = .ok package := by
  have decoded := fromBytes_header (echoRequestHeader_type identifier sequenceNumber) body
  rw [ofHeader_echoRequestHeader identifier sequenceNumber timestamp,
    checksum_echoRequestHeader identifier sequenceNumber timestamp] at decoded
  exact ⟨_, IcmpPackage.createEchoRequest_eq_ok_iff.mpr
    ⟨pythonRequest_inRange identifier sequenceNumber timestamp, rfl⟩, decoded⟩

end Python

end Requests

section Runs

variable {ip : IpType} {network : Network} {dest : String} {count ttl timeout : Int} {k : Nat}
  {probe : Probe ip}

/-- Each round of a run sends a valid request with its own number. For IPv4 it is the request that
the Python client builds and accepts. Two rounds send the same bytes only after the numbers have
gone around. -/
theorem pingRun_requests
    (here : (pingRun ip network dest count ttl timeout).probes[k]? = some probe) :
    IsPingRequest ip network.identifier (k % 65536) probe.request ∧
      (ip = .useIpv4 → ∀ timestamp, ∃ package,
        IcmpPackage.createEchoRequest timestamp (some network.identifier.toNat)
            ((k % 65536 : Nat) : Int) (some body) = .ok package ∧
          package.toBytes = .ok probe.request ∧
          IcmpPackage.fromBytes probe.request = .ok package ∧ package.validate = .ok true) ∧
      ∀ (j : Nat) (other : Probe ip),
        (pingRun ip network dest count ttl timeout).probes[j]? = some other →
          (other.request = probe.request ↔ j % 65536 = k % 65536) := by
  have sent {j : Nat} {other : Probe ip}
      (there : (pingRun ip network dest count ttl timeout).probes[j]? = some other) :
      other.request = requestBytes ip network.identifier j := by
    obtain ⟨valid, _, number⟩ := pingRun_valid there
    rw [valid.request, number]
  refine ⟨?_, ?_, ?_⟩
  · have request := isPingRequest_requestBytes ip network.identifier k
    rw [← sent here] at request
    exact request
  · rintro rfl timestamp
    obtain ⟨package, created, decoded⟩ := requestBytes_created network.identifier k timestamp
    obtain ⟨inRange, isRequest, code, checksum, _⟩ := IcmpPackage.created_fields created
    rw [← sent here] at decoded
    exact ⟨package, created, IcmpPackage.toBytes_of_fromBytes decoded, decoded,
      IcmpPackage.validate_created inRange isRequest code checksum⟩
  · intro j other there
    rw [sent here, sent there, requestBytes_eq_iff]
    omega

end Runs

theorem pingRun_requests_answered :
    ∃ probe, (pingRun .useIpv4 answeredNetwork "host" 2 64 1000).probes[0]? = some probe ∧
      IsPingRequest .useIpv4 answeredNetwork.identifier (0 % 65536) probe.request ∧
      ∃ package, IcmpPackage.fromBytes probe.request = .ok package ∧
        package.validate = .ok true := by
  obtain ⟨probe, here, _⟩ := answeredNetwork_probe
  obtain ⟨request, built, _⟩ := pingRun_requests here
  obtain ⟨package, _, _, decoded, valid⟩ := built rfl (Vector.replicate 8 0)
  exact ⟨probe, here, request, package, decoded, valid⟩

end NetworkTools
