/-
This file proves which truncated datagrams the receiver takes for an answer.
-/

import NetworkTools.Proof.Receive.Verdict
import NetworkTools.Specification.Message

namespace NetworkTools
open Library Specification

/-- The length field of an IPv6 header is never filled. -/
theorem setSourceAddress_headerLength (address : AddressV6) :
    (Ipv6Header.zero.setSourceAddress address).headerLength.toNat = 0 := by
  have zeros (index : Nat) (inside : index < 8) (positive : 0 < index) :
      (Ipv6Header.zero.setSourceAddress address).rep[index] = 0 := by
    simp only [Ipv6Header.setSourceAddress]
    rw [Vector.getElem_set_ne (by decide) (by omega) (by omega),
      store_behind _ 8 _ index (by omega) inside]
    exact Vector.getElem_replicate (by omega)
  rw [Ipv6Header.headerLength, decode_toNat, zeros 4 (by decide) (by decide),
    zeros 5 (by decide) (by decide)]
  rfl

/-- The IP header of a complete datagram lies inside the datagram. -/
theorem accepted_headerLength_le (ip : IpType) (datagram : Datagram)
    (complete : Complete ip datagram.bytes) :
    (ip.headerLength (accepted ip datagram).ipHd).toNat ≤ datagram.bytes.length := by
  cases ip with
  | useIpv4 =>
      change (Ipv4Header.extract ⟨datagram.bytes, true⟩ .zero).1.headerLength.toNat ≤ _
      rw [ipv4Extract_headerLength, ipv4HeaderSize]
      have size := complete.2.2
      omega
  | useIpv6 =>
      change (Ipv6Header.zero.setSourceAddress datagram.sender).headerLength.toNat ≤ _
      rw [setSourceAddress_headerLength]
      exact Nat.zero_le _

theorem complete_length (ip : IpType) (bytes : List UInt8) (complete : Complete ip bytes) :
    8 ≤ bytes.length := by
  cases ip with
  | useIpv4 =>
      have size := complete.2.2
      omega
  | useIpv6 => exact complete

/-- The receiver keeps to complete datagrams exactly when no truncation spells an answer. -/
theorem acceptedOnlyComplete_iff (ip : IpType) (identifier : UInt16) (sequenceNumber : Int)
    (datagram : Datagram) :
    AcceptedOnlyComplete ip identifier sequenceNumber datagram ↔
      ¬ TruncatedAnswer ip identifier sequenceNumber datagram.bytes := by
  apply Iff.intro
  · intro holds truncated
    rcases truncated with ⟨incomplete, kind⟩
    -- One run with this datagram alone accepts it.
    have verdict : judge ip identifier sequenceNumber datagram =
        .settle (some (accepted ip datagram)) := (judge_eq_accept_iff _).mpr ⟨rfl, kind⟩
    have received : TimedScan.wait (TimedScan.ofList [⟨0, datagram⟩]) 1 ⟨0, 0⟩ =
        (some datagram, ⟨1, 0⟩) := rfl
    have found := pingReceivePack_eq_scan ip identifier (TimedScan.ofList [⟨0, datagram⟩])
      sequenceNumber 1 recursionLimit ⟨0, 0⟩
    rw [TimedScan.scan_of_settled recursionLimit received verdict] at found
    exact incomplete (holds _ 1 recursionLimit ⟨0, 0⟩ ⟨1, 0⟩ _ 0 found rfl).1
  · intro untruncated traffic timeout left cursor ended compose time found present
    obtain ⟨skipped, last, _, skips, here, kind, final, isCompose⟩ := pingReceivePack_some found
    have position := pingReceivePack_some_position skips final
    rw [show ended.position - 1 = cursor.position + skipped by omega, here] at present
    obtain rfl := Option.some.inj present
    have complete : Complete ip datagram.bytes := by
      by_contra incomplete
      exact untruncated ⟨incomplete, kind⟩
    rw [isCompose]
    have length := complete_length ip datagram.bytes complete
    refine ⟨complete, ?_, accepted_headerLength_le ip datagram complete⟩
    change datagram.bytes.length ≠ 0
    omega

/-- An IPv4 header with one ICMP byte behind it is taken for a whole message. -/
def cutDatagram : Datagram where
  bytes := ipv4Prefix hostAddress localAddress ++ [IpType.useIpv4.timeExceeded]
  sender := unusedSender
  fits := by decide

theorem pingReceivePack_accepts_cut :
    (pingReceivePack .useIpv4 7 (TimedScan.ofList [⟨5, cutDatagram⟩]) 0 1000 recursionLimit
        ⟨0, 0⟩).1.map IcmpCompose.length = some 21 ∧
      ¬ Complete .useIpv4 cutDatagram.bytes := by
  decide +kernel

end NetworkTools
