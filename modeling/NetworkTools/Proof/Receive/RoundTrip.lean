/-
This file proves which sequence numbers survive the way to a host and back.
-/

import NetworkTools.Proof.Receive.Verdict
import NetworkTools.Specification.Message

namespace NetworkTools
open Library Specification

theorem echoRequestHeader_kind (ip : IpType) (identifier : UInt16) (sequenceNumber : Int) :
    (echoRequestHeader ip identifier sequenceNumber).type = ip.echoRequest ∧
      (echoRequestHeader ip identifier sequenceNumber).code = 0 := by
  obtain ⟨sameType, sameCode, _⟩ := IcmpHeader.computeChecksum_fields
    ((((IcmpHeader.zero.setType ip.echoRequest).setCode 0).setIdentifier
      identifier).setSequenceNumber (UInt16.ofInt sequenceNumber)) body
  exact ⟨sameType.trans (by simp), sameCode.trans (by simp)⟩

/-- The request carries the low sixteen bits of the counter. -/
theorem echoRequestHeader_fields (ip : IpType) (identifier : UInt16) (sequenceNumber : Int) :
    (echoRequestHeader ip identifier sequenceNumber).identifier = identifier ∧
      (echoRequestHeader ip identifier sequenceNumber).sequenceNumber =
        UInt16.ofInt sequenceNumber := by
  obtain ⟨_, _, sameIdentifier, sameSequence⟩ := IcmpHeader.computeChecksum_fields
    ((((IcmpHeader.zero.setType ip.echoRequest).setCode 0).setIdentifier
      identifier).setSequenceNumber (UInt16.ofInt sequenceNumber)) body
  exact ⟨sameIdentifier.trans (by simp), sameSequence.trans (by simp)⟩

theorem ofInt_toNat (n : Int) : (UInt16.ofInt n).toNat = (n % 65536).toNat := by
  have bound : n % 65536 < 65536 := Int.emod_lt_of_pos n (by decide)
  rw [UInt16.ofInt, UInt16.toNat_ofNat']
  change (n % 65536).toNat % 65536 = _
  omega

/-- The words of a request spell its identity. -/
theorem requestBytes_words (ip : IpType) (identifier : UInt16) (sequenceNumber : Int) :
    byteAt (requestBytes ip identifier sequenceNumber) 0 = ip.echoRequest ∧
      wordAt (requestBytes ip identifier sequenceNumber) 4 = identifier.toNat ∧
      wordAt (requestBytes ip identifier sequenceNumber) 6 = (sequenceNumber % 65536).toNat := by
  obtain ⟨sameType, _⟩ := echoRequestHeader_kind ip identifier sequenceNumber
  obtain ⟨sameIdentifier, sameSequence⟩ :=
    echoRequestHeader_fields ip identifier sequenceNumber
  have identifierWord := decode_toNat (highByte identifier) (lowByte identifier)
  have sequenceWord := decode_toNat (highByte (UInt16.ofInt sequenceNumber))
    (lowByte (UInt16.ofInt sequenceNumber))
  rw [decode_split] at identifierWord sequenceWord
  rw [requestBytes, IcmpHeader.bytes_eq, sameType, sameIdentifier, sameSequence]
  exact ⟨rfl, identifierWord.symm, by rw [← ofInt_toNat, sequenceWord]; rfl⟩

section Reply

variable (ip : IpType) (identifier : UInt16) (sequenceNumber : Int)
  (code checksumHigh checksumLow : UInt8)

/-- The reply spells the identity of the request in its bytes four to seven. -/
theorem echoReplyTo_request :
    ∃ payload, echoReplyTo ip code checksumHigh checksumLow
        (requestBytes ip identifier sequenceNumber) =
      [ip.echoReply, code, checksumHigh, checksumLow, highByte identifier, lowByte identifier,
        highByte (UInt16.ofInt sequenceNumber), lowByte (UInt16.ofInt sequenceNumber)] ++
        payload := by
  obtain ⟨sameIdentifier, sameSequence⟩ :=
    echoRequestHeader_fields ip identifier sequenceNumber
  refine ⟨body, ?_⟩
  rw [echoReplyTo, requestBytes, IcmpHeader.bytes_eq, sameIdentifier, sameSequence]
  rfl

variable {header bytes : List UInt8} (wellFormed : WellFormedPrefix ip header)
  (same : bytes = header ++ echoReplyTo ip code checksumHigh checksumLow
    (requestBytes ip identifier sequenceNumber))

include wellFormed same

theorem reply_readsAsEchoReply : ReadsAsType ip ip.echoReply bytes := by
  obtain ⟨payload, spelled⟩ :=
    echoReplyTo_request ip identifier sequenceNumber code checksumHigh checksumLow
  rw [ReadsAsType, same, icmpPart_append wellFormed, spelled]
  rfl

/-- The identifier always returns, the sequence number only modulo the field size. -/
theorem reply_words :
    wordAt (icmpPart ip bytes) 4 = identifier.toNat ∧
      wordAt (icmpPart ip bytes) 6 = (sequenceNumber % 65536).toNat := by
  obtain ⟨payload, spelled⟩ :=
    echoReplyTo_request ip identifier sequenceNumber code checksumHigh checksumLow
  rw [same, icmpPart_append wellFormed, spelled]
  have identifierWord := decode_toNat (highByte identifier) (lowByte identifier)
  have sequenceWord := decode_toNat (highByte (UInt16.ofInt sequenceNumber))
    (lowByte (UInt16.ofInt sequenceNumber))
  rw [decode_split] at identifierWord sequenceWord
  exact ⟨identifierWord.symm, by rw [← ofInt_toNat, sequenceWord]; rfl⟩

end Reply

/-- The receiver returns the reply to its own request exactly when the counter fits the field. -/
theorem pingReceivePack_recognises_iff (ip : IpType) (identifier : UInt16)
    (sequenceNumber : Int) (started : 0 ≤ sequenceNumber)
    (header : List UInt8) (wellFormed : WellFormedPrefix ip header)
    (code checksumHigh checksumLow : UInt8) (traffic : Traffic Datagram) (timeout : Int)
    (cursor : Cursor) (arrival : Arrival Datagram)
    (isReply : arrival.message.bytes = header ++ echoReplyTo ip code checksumHigh checksumLow
      (requestBytes ip identifier sequenceNumber))
    (first : traffic cursor.position = some arrival)
    (onTime : arrival.time < cursor.clock + timeout) :
    (pingReceivePack ip identifier traffic sequenceNumber timeout recursionLimit cursor).1.map
        IcmpCompose.withoutElapsed = some (accepted ip arrival.message) ↔
      sequenceNumber < 65536 := by
  have reply := reply_readsAsEchoReply ip identifier sequenceNumber code checksumHigh
    checksumLow wellFormed isReply
  obtain ⟨identifierWord, sequenceWord⟩ := reply_words ip identifier sequenceNumber code
    checksumHigh checksumLow wellFormed isReply
  apply Iff.intro
  · intro returned
    obtain ⟨compose, found, same⟩ := Option.map_eq_some_iff.mp returned
    obtain ⟨_, other, _, _, _, kind, _, isCompose⟩ := pingReceivePack_some (Prod.ext found rfl)
    rw [isCompose] at same
    have sameHeader : (accepted ip arrival.message).icmpHd = (accepted ip other.message).icmpHd :=
      congrArg IcmpCompose.icmpHd same.symm
    have sameType : byteAt (icmpPart ip arrival.message.bytes) 0 =
        byteAt (icmpPart ip other.message.bytes) 0 := by
      rw [← readHeaders_type ip _ arrival.message.sender,
        ← readHeaders_type ip _ other.message.sender]
      exact congrArg IcmpHeader.type sameHeader
    have sameSequence : wordAt (icmpPart ip arrival.message.bytes) 6 =
        wordAt (icmpPart ip other.message.bytes) 6 := by
      rw [← readHeaders_sequenceNumber ip _ arrival.message.sender,
        ← readHeaders_sequenceNumber ip _ other.message.sender]
      exact congrArg (fun header => header.sequenceNumber.toNat) sameHeader
    rcases kind with exceeded | ⟨_, _, own⟩
    · exact absurd (reply.symm.trans (sameType.trans exceeded)) (echoReply_ne_timeExceeded ip)
    · rw [← sameSequence, sequenceWord] at own
      omega
  · intro fits
    have own : ReadsAsProbe ip identifier sequenceNumber arrival.message.bytes :=
      ⟨identifierWord, by rw [sequenceWord]; omega⟩
    have settled := TimedScan.scan_of_settled recursionLimit
      (TimedScan.wait_of_arrival first onTime) (judge_of_ownReply reply own)
    rw [pingReceivePack_withoutElapsed, settled]
    rfl

theorem pingReceivePack_recognises_three :
    (pingReceivePack .useIpv4 7 (TimedScan.ofList [⟨5, replyDatagram hostAddress 7 3⟩]) 3 1000
        recursionLimit ⟨0, 0⟩).1.map IcmpCompose.withoutElapsed =
      some (accepted .useIpv4 (replyDatagram hostAddress 7 3)) ↔ (3 : Int) < 65536 :=
  pingReceivePack_recognises_iff .useIpv4 7 3 (by decide) (ipv4Prefix hostAddress localAddress)
    (by decide) 0 0 0 _ 1000 ⟨0, 0⟩ ⟨5, replyDatagram hostAddress 7 3⟩ rfl rfl (by decide)

/-- The first probe beyond the field size never recognises its own reply. -/
theorem pingReceivePack_loses_wrapped_reply :
    WellFormedPrefix .useIpv4 (ipv4Prefix hostAddress localAddress) ∧
      (replyDatagram hostAddress 7 65536).bytes = ipv4Prefix hostAddress localAddress ++
        echoReplyTo .useIpv4 0 0 0 (requestBytes .useIpv4 7 65536) ∧
      (pingReceivePack .useIpv4 7 (TimedScan.ofList [⟨5, replyDatagram hostAddress 7 65536⟩])
        65536 1000 recursionLimit ⟨0, 0⟩).1 = none := by
  decide +kernel

end NetworkTools
