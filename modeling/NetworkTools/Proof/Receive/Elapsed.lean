/-
This file proves when the reported elapsed time is the round-trip time of the probe.
-/

import NetworkTools.Proof.Receive.Verdict
import NetworkTools.Specification.Message

namespace NetworkTools
open Library Specification

/-- The elapsed time starts at the last wait, so it is exact when no skip moved the clock. -/
theorem pingReceivePack_elapsed_iff (ip : IpType) (identifier : UInt16)
    (traffic : Traffic Datagram) (ordered : TimedScan.Ordered traffic)
    (sequenceNumber timeout : Int) (cursor ended : Cursor) (compose : IcmpCompose ip)
    (found : pingReceivePack ip identifier traffic sequenceNumber timeout recursionLimit cursor =
      (some compose, ended))
    (arrival : Arrival Datagram) (present : traffic (ended.position - 1) = some arrival) :
    compose.elapsed = arrival.time - cursor.clock ↔
      cursor.clock ≤ arrival.time ∧
        ∀ position earlier, cursor.position ≤ position → position < ended.position - 1 →
          traffic position = some earlier → earlier.time ≤ cursor.clock := by
  obtain ⟨skipped, last, _, skips, here, _, final, isCompose⟩ := pingReceivePack_some found
  have position := pingReceivePack_some_position skips final
  have sameArrival : last = arrival := by
    rw [show ended.position - 1 = cursor.position + skipped by omega, here] at present
    exact Option.some.inj present
  subst last
  have clock : ended.clock =
      max ((TimedScan.step traffic)^[skipped] cursor).clock arrival.time := by
    rw [final]
    rfl
  have elapsed : compose.elapsed =
      ended.clock - ((TimedScan.step traffic)^[skipped] cursor).clock := by
    rw [isCompose]
    rfl
  obtain ⟨lower, unmoved⟩ := TimedScan.skips_clock_eq_iff skips
  have upper := TimedScan.skips_clock_le ordered skips here
  rw [elapsed]
  apply Iff.intro
  · intro same
    have still : ((TimedScan.step traffic)^[skipped] cursor).clock = cursor.clock := by omega
    refine ⟨by omega, ?_⟩
    intro place earlier started before isEarlier
    apply unmoved.mp still (place - cursor.position) (by omega)
    rwa [Nat.add_sub_cancel' started]
  · intro prompt
    rcases prompt with ⟨after, early⟩
    have still := unmoved.mpr fun k inside earlier isEarlier =>
      early (cursor.position + k) earlier (by omega) (by omega) isEarlier
    omega

/-- A reply that comes after five milliseconds reports five milliseconds. -/
theorem pingReceivePack_elapsed_prompt :
    ((accepted .useIpv4 (replyDatagram hostAddress 7 0)).withElapsed 5000000).elapsed =
        (5000000 : Int) - 0 ↔
      (0 : Int) ≤ 5000000 ∧
        ∀ position earlier, 0 ≤ position → position < 1 - 1 →
          TimedScan.ofList [⟨5000000, replyDatagram hostAddress 7 0⟩] position = some earlier →
            earlier.time ≤ 0 :=
  pingReceivePack_elapsed_iff .useIpv4 7 _ (TimedScan.ofList_ordered (List.pairwise_singleton _ _))
    0 1000000000 ⟨0, 0⟩ ⟨1, 5000000⟩ _ (by decide +kernel)
    ⟨5000000, replyDatagram hostAddress 7 0⟩ rfl

/-- A foreign reply in front takes its own waiting time off the reported time. -/
theorem pingReceivePack_elapsed_short :
    TimedScan.Ordered (TimedScan.ofList
        [⟨5000000, replyDatagram hostAddress 8 0⟩, ⟨9000000, replyDatagram hostAddress 7 0⟩]) ∧
      pingReceivePack .useIpv4 7 (TimedScan.ofList
          [⟨5000000, replyDatagram hostAddress 8 0⟩, ⟨9000000, replyDatagram hostAddress 7 0⟩])
          0 1000000000 recursionLimit ⟨0, 0⟩ =
        (some ((accepted .useIpv4 (replyDatagram hostAddress 7 0)).withElapsed 4000000),
          ⟨2, 9000000⟩) ∧
      (4000000 : Int) ≠ 9000000 - 0 :=
  ⟨TimedScan.ofList_ordered (by simp), by decide +kernel, by decide⟩

end NetworkTools
