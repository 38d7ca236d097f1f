/-
This file proves which unrelated traffic leaves the result of a wait alone.
-/

import NetworkTools.Proof.Receive.Verdict
import NetworkTools.Specification.Message

namespace NetworkTools
open Library Specification

/-- Two datagrams that fill the same entry are both complete or both truncated. -/
theorem complete_of_accepted_eq (ip : IpType) (first second : Datagram)
    (same : accepted ip first = accepted ip second) (complete : Complete ip second.bytes) :
    Complete ip first.bytes := by
  have sameLength : first.bytes.length = second.bytes.length := congrArg IcmpCompose.length same
  cases ip with
  | useIpv4 =>
      have sameHeader : (Ipv4Header.extract ⟨first.bytes, true⟩ .zero).1 =
          (Ipv4Header.extract ⟨second.bytes, true⟩ .zero).1 := congrArg IcmpCompose.ipHd same
      have sameByte : byteAt first.bytes 0 = byteAt second.bytes 0 := by
        rw [← ipv4Extract_fixed first.bytes 0 (by decide),
          ← ipv4Extract_fixed second.bytes 0 (by decide), sameHeader]
      rcases complete with ⟨version, words, size⟩
      refine ⟨?_, ?_, ?_⟩
      · rw [ipv4Version, sameByte]
        exact version
      · rw [sameByte]
        exact words
      · rw [sameByte, sameLength]
        exact size
  | useIpv6 =>
      change 8 ≤ first.bytes.length
      rw [sameLength]
      exact complete

/-- Two datagrams that fill the same entry read as the same message. -/
theorem reads_of_accepted_eq (ip : IpType) (first second : Datagram)
    (same : accepted ip first = accepted ip second) (type : UInt8) :
    ReadsAsType ip type first.bytes ↔ ReadsAsType ip type second.bytes := by
  have sameHeader : (readHeaders ip ⟨first.bytes, true⟩ first.sender).2 =
      (readHeaders ip ⟨second.bytes, true⟩ second.sender).2 := congrArg IcmpCompose.icmpHd same
  rw [ReadsAsType, ReadsAsType, ← readHeaders_type ip _ first.sender,
    ← readHeaders_type ip _ second.sender, sameHeader]

/-- The first decision among the arrivals is what a wait with enough budget returns. -/
theorem pingReceivePack_delivered {ip : IpType} {identifier : UInt16}
    {traffic : Traffic Datagram} {sequenceNumber timeout : Int} {cursor : Cursor}
    {arrivals : List (Arrival Datagram)} {result : Option (IcmpCompose ip)}
    (few : arrivals.length ≤ recursionLimit + 1)
    (delivered : TimedScan.Delivers traffic cursor.position arrivals)
    (onTime : TimedScan.OnTime timeout cursor.clock arrivals)
    (decides : arrivals.findSome?
      (fun arrival => (judge ip identifier sequenceNumber arrival.message).decision) =
        some result) :
    (pingReceivePack ip identifier traffic sequenceNumber timeout recursionLimit cursor).1.map
      IcmpCompose.withoutElapsed = result.map IcmpCompose.withoutElapsed := by
  rw [pingReceivePack_withoutElapsed,
    TimedScan.scan_delivered few delivered onTime decides]

/-- A datagram that settles a wait with the entry of a matching reply is a matching reply. -/
theorem isEchoReply_of_settled {ip : IpType} {identifier : UInt16} {sequenceNumber : Int}
    {reply datagram : Datagram} {compose : IcmpCompose ip}
    (matching : IsEchoReply ip identifier sequenceNumber reply.bytes)
    (settles : judge ip identifier sequenceNumber datagram = .settle (some compose))
    (same : compose.withoutElapsed = accepted ip reply) :
    IsEchoReply ip identifier sequenceNumber datagram.bytes := by
  obtain ⟨complete, isReply, _⟩ := matching
  obtain ⟨rfl, kind⟩ := (judge_eq_accept_iff compose).mp settles
  rw [accepted_withoutElapsed] at same
  rcases kind with exceeded | ⟨alsoReply, alsoOwn⟩
  · exact absurd ((reads_of_accepted_eq ip _ _ same _).mp exceeded)
      (not_timeExceeded_of_echoReply isReply)
  · exact ⟨complete_of_accepted_eq ip _ _ same complete, alsoReply, alsoOwn⟩

/-- Unrelated traffic is harmless exactly when all of it reads as foreign echo replies. -/
theorem pingReceivePack_unrelated_iff (ip : IpType) (identifier : UInt16)
    (destination : Address) (sequenceNumber timeout : Int)
    (foreign : List (Arrival Datagram)) (few : foreign.length ≤ 256)
    (unrelated : ∀ arrival ∈ foreign,
      ¬ Answers ip identifier destination sequenceNumber arrival.message.bytes)
    (reply : Datagram) (matching : IsEchoReply ip identifier sequenceNumber reply.bytes)
    (traffic alone : Traffic Datagram) (cursor start : Cursor) (time aloneTime : Int)
    (delivered : TimedScan.Delivers traffic cursor.position (foreign ++ [⟨time, reply⟩]))
    (onTime : TimedScan.OnTime timeout cursor.clock (foreign ++ [⟨time, reply⟩]))
    (deliveredAlone : alone start.position = some ⟨aloneTime, reply⟩)
    (onTimeAlone : aloneTime < start.clock + timeout) :
    (pingReceivePack ip identifier alone sequenceNumber timeout recursionLimit start).1.map
        IcmpCompose.withoutElapsed = some (accepted ip reply) ∧
      ((pingReceivePack ip identifier traffic sequenceNumber timeout recursionLimit cursor).1.map
          IcmpCompose.withoutElapsed =
        (pingReceivePack ip identifier alone sequenceNumber timeout recursionLimit start).1.map
          IcmpCompose.withoutElapsed ↔
        ∀ arrival ∈ foreign, ReadsAsType ip ip.echoReply arrival.message.bytes ∧
          ¬ ReadsAsProbe ip identifier sequenceNumber arrival.message.bytes) := by
  have replyVerdict : judge ip identifier sequenceNumber reply =
      .settle (some (accepted ip reply)) := judge_of_ownReply matching.2.1 matching.2.2
  have aloneResult : (pingReceivePack ip identifier alone sequenceNumber timeout recursionLimit
      start).1.map IcmpCompose.withoutElapsed = some (accepted ip reply) := by
    rw [pingReceivePack_withoutElapsed, TimedScan.scan_of_settled recursionLimit
      (TimedScan.wait_of_arrival deliveredAlone onTimeAlone) replyVerdict]
    rfl
  have length : (foreign ++ [Arrival.mk time reply]).length ≤ recursionLimit + 1 := by
    rw [List.length_append, recursionLimit]
    exact Nat.succ_le_succ few
  refine ⟨aloneResult, ?_⟩
  rw [aloneResult]
  cases first : foreign.findSome?
      (fun arrival => (judge ip identifier sequenceNumber arrival.message).decision) with
  | none =>
      -- Every foreign datagram is skipped and the reply decides.
      have skipped := List.findSome?_eq_none_iff.mp first
      have decides : (foreign ++ [Arrival.mk time reply]).findSome?
          (fun arrival => (judge ip identifier sequenceNumber arrival.message).decision) =
            some (some (accepted ip reply)) := by
        rw [List.findSome?_append, first]
        simp [replyVerdict, Verdict.decision]
      refine ⟨fun _ arrival member => ?_, fun _ => ?_⟩
      · exact judge_eq_skip_iff.mp ((Verdict.decision_eq_none_iff _).mp (skipped arrival member))
      · rw [pingReceivePack_delivered length delivered onTime decides]
        rfl
  | some result =>
      -- One foreign datagram decides, and it cannot decide as the reply does.
      obtain ⟨arrival, member, decided⟩ := List.exists_of_findSome?_eq_some first
      have verdict := (Verdict.decision_eq_some_iff _ _).mp decided
      have decides : (foreign ++ [Arrival.mk time reply]).findSome?
          (fun arrival => (judge ip identifier sequenceNumber arrival.message).decision) =
            some result := by
        rw [List.findSome?_append, first]
        rfl
      rw [pingReceivePack_delivered length delivered onTime decides]
      apply Iff.intro
      · intro same
        exfalso
        obtain ⟨compose, rfl, sameCompose⟩ := Option.map_eq_some_iff.mp same
        exact unrelated arrival member
          (.inl (isEchoReply_of_settled matching verdict sameCompose))
      · intro allSkipped
        have skip := judge_eq_skip_iff.mpr (allSkipped arrival member)
        rw [skip] at verdict
        exact absurd verdict (by simp)

/-- Another process on the host receives this reply first. -/
def neighbourReply : Arrival Datagram := ⟨1, replyDatagram hostAddress 8 0⟩

theorem pingReceivePack_unrelated_neighbour :
    (pingReceivePack .useIpv4 7 (TimedScan.ofList [⟨2, replyDatagram hostAddress 7 0⟩]) 0 1000
        recursionLimit ⟨0, 0⟩).1.map IcmpCompose.withoutElapsed =
        some (accepted .useIpv4 (replyDatagram hostAddress 7 0)) ∧
      ((pingReceivePack .useIpv4 7
          (TimedScan.ofList [neighbourReply, ⟨2, replyDatagram hostAddress 7 0⟩]) 0 1000
          recursionLimit ⟨0, 0⟩).1.map IcmpCompose.withoutElapsed =
        (pingReceivePack .useIpv4 7 (TimedScan.ofList [⟨2, replyDatagram hostAddress 7 0⟩]) 0 1000
          recursionLimit ⟨0, 0⟩).1.map IcmpCompose.withoutElapsed ↔
        ∀ arrival ∈ [neighbourReply],
          ReadsAsType .useIpv4 IpType.useIpv4.echoReply arrival.message.bytes ∧
          ¬ ReadsAsProbe .useIpv4 7 0 arrival.message.bytes) :=
  pingReceivePack_unrelated_iff .useIpv4 7 (.v4 hostAddress) 0 1000 [neighbourReply] (by decide)
    (by decide +kernel) (replyDatagram hostAddress 7 0) (by decide +kernel) _ _ ⟨0, 0⟩ ⟨0, 0⟩ 2 2
    (TimedScan.ofList_delivers _) (by decide) rfl (by decide)

def loopbackAddress : AddressV6 := ⟨(Vector.replicate 16 0).set 15 1, 0⟩

/-- On the loopback the pinger's own request arrives first and ends the wait. -/
theorem pingReceivePack_ended_by_own_request :
    ¬ Answers .useIpv6 7 (.v6 loopbackAddress) 0 (requestDatagram 7 0).bytes ∧
      IsEchoReply .useIpv6 7 0 (replyDatagramV6 7 0).bytes ∧
      TimedScan.OnTime 1000 0 [⟨1, requestDatagram 7 0⟩, ⟨2, replyDatagramV6 7 0⟩] ∧
      (pingReceivePack .useIpv6 7 (TimedScan.ofList [⟨2, replyDatagramV6 7 0⟩]) 0 1000
        recursionLimit ⟨0, 0⟩).1.map IcmpCompose.withoutElapsed =
          some (accepted .useIpv6 (replyDatagramV6 7 0)) ∧
      (pingReceivePack .useIpv6 7
        (TimedScan.ofList [⟨1, requestDatagram 7 0⟩, ⟨2, replyDatagramV6 7 0⟩]) 0 1000
        recursionLimit ⟨0, 0⟩).1 = none := by
  decide +kernel

end NetworkTools
