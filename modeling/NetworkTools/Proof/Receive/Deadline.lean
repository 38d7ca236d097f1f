/-
This file proves when one probe's wait ends within its timeout.
-/

import NetworkTools.Library.Deadline
import NetworkTools.Proof.Receive.Verdict
import NetworkTools.Specification.Message

namespace NetworkTools
open Library Specification

/-- The receiver skips exactly the foreign echo replies. -/
theorem skippable_iff (ip : IpType) (identifier : UInt16) (sequenceNumber : Int)
    (traffic : Traffic Datagram) (timeout : Int) (cursor : Cursor)
    (arrivals : List (Arrival Datagram)) :
    TimedScan.Skippable (judge ip identifier sequenceNumber) traffic timeout recursionLimit cursor
        arrivals ↔
      ForeignReplies ip identifier sequenceNumber traffic timeout cursor arrivals := by
  apply Iff.intro
  · intro skippable
    exact ⟨skippable.budget, skippable.delivered, skippable.onTime,
      fun arrival member => judge_eq_skip_iff.mp (skippable.skipped arrival member)⟩
  · intro replies
    exact ⟨replies.budget, replies.delivered, replies.onTime,
      fun arrival member => judge_eq_skip_iff.mpr (replies.foreign arrival member)⟩

/-- A wait keeps within its timeout exactly when each foreign reply that comes after its start
is followed by another datagram in time. -/
theorem pingReceivePack_duration_le_iff (ip : IpType) (identifier : UInt16)
    (traffic : Traffic Datagram) (sequenceNumber timeout : Int) (cursor : Cursor) :
    (pingReceivePack ip identifier traffic sequenceNumber timeout recursionLimit cursor).2.clock -
        cursor.clock ≤ timeout ↔
      0 ≤ timeout ∧ ∀ arrivals,
        ForeignReplies ip identifier sequenceNumber traffic timeout cursor arrivals →
        (∃ arrival ∈ arrivals, cursor.clock < arrival.time) →
          ∃ next, traffic (cursor.position + arrivals.length) = some next ∧
            next.time ≤ cursor.clock + timeout := by
  rw [pingReceivePack_eq_scan, TimedScan.scan_duration_le_iff]
  simp only [skippable_iff]

/-- One foreign reply in the middle of the wait arms the timer again. -/
theorem pingReceivePack_outlasts :
    TimedScan.Ordered (TimedScan.ofList [⟨5000000, replyDatagram hostAddress 8 0⟩]) ∧
      pingReceivePack .useIpv4 7 (TimedScan.ofList [⟨5000000, replyDatagram hostAddress 8 0⟩])
          0 10000000 recursionLimit ⟨0, 0⟩ = (none, ⟨1, 15000000⟩) ∧
      ¬ (15000000 : Int) - 0 ≤ 10000000 :=
  ⟨TimedScan.ofList_ordered (List.pairwise_singleton _ _), by decide +kernel, by decide⟩

end NetworkTools
