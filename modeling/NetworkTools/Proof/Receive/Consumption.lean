/-
This file proves how many datagrams one wait takes from an endless stream.
-/

import NetworkTools.Library.StreamScan
import NetworkTools.Proof.Receive.Verdict
import NetworkTools.Specification.Message

namespace NetworkTools
open Library Specification

section Kinds

variable {ip : IpType} {identifier : UInt16} {sequenceNumber : Int} {datagram : Datagram}

theorem judge_of_isForeignReply
    (foreign : IsForeignReply ip identifier sequenceNumber datagram.bytes) :
    judge ip identifier sequenceNumber datagram = .skip :=
  judge_of_foreignReply foreign.2.1 foreign.2.2

/-- A complete datagram that is no foreign reply settles the wait. -/
theorem judge_of_not_isForeignReply (complete : Complete ip datagram.bytes)
    (other : ¬ IsForeignReply ip identifier sequenceNumber datagram.bytes) :
    judge ip identifier sequenceNumber datagram = .settle
      (if IsEchoReply ip identifier sequenceNumber datagram.bytes ∨
          IsTimeExceeded ip datagram.bytes then some (accepted ip datagram) else none) := by
  by_cases exceeded : ReadsAsType ip ip.timeExceeded datagram.bytes
  · rw [judge_of_timeExceeded exceeded, if_pos (.inr ⟨complete, exceeded⟩)]
  by_cases reply : ReadsAsType ip ip.echoReply datagram.bytes
  · by_cases own : ReadsAsProbe ip identifier sequenceNumber datagram.bytes
    · rw [judge_of_ownReply reply own, if_pos (.inl ⟨complete, reply, own⟩)]
    · exact absurd ⟨complete, reply, own⟩ other
  · rw [judge_of_other exceeded reply, if_neg]
    rintro (isReply | isExceeded)
    · exact reply isReply.2.1
    · exact exceeded isExceeded.2

end Kinds

section Waits

variable {ip : IpType} {identifier : UInt16} {sequenceNumber timeout : Int}
  {stream : Nat → Arrival Datagram} {start : Cursor}
  (prompt : TimedScan.Prompt stream timeout start)

include prompt

/-- A wait within its budget ends with the first datagram that is no foreign reply. -/
theorem pingReceivePack_of_firstOther {k : Nat}
    (complete : ∀ position, Complete ip (stream position).message.bytes)
    (within : k ≤ recursionLimit)
    (first : FirstOther ip identifier sequenceNumber stream start.position k) :
    (pingReceivePack ip identifier (TimedScan.endless stream) sequenceNumber timeout
        recursionLimit start).2.position = start.position + k + 1 ∧
      (pingReceivePack ip identifier (TimedScan.endless stream) sequenceNumber timeout
          recursionLimit start).1.map IcmpCompose.withoutElapsed =
        if IsEchoReply ip identifier sequenceNumber
              (stream (start.position + k)).message.bytes ∨
            IsTimeExceeded ip (stream (start.position + k)).message.bytes then
          some (accepted ip (stream (start.position + k)).message)
        else none := by
  obtain ⟨foreign, other⟩ := first
  obtain ⟨found, position⟩ := TimedScan.scan_endless_settled prompt within
    (fun j inside => judge_of_isForeignReply (foreign j inside))
    (judge_of_not_isForeignReply (complete _) other)
  apply And.intro
  · rw [pingReceivePack_eq_scan]
    exact position
  · rw [pingReceivePack_withoutElapsed, found]
    split <;> rfl

/-- A wait gives up behind one foreign reply more than its budget. -/
theorem pingReceivePack_of_foreign
    (foreign : ∀ j ≤ recursionLimit, IsForeignReply ip identifier sequenceNumber
      (stream (start.position + j)).message.bytes) :
    (pingReceivePack ip identifier (TimedScan.endless stream) sequenceNumber timeout
        recursionLimit start).2.position = start.position + recursionLimit + 1 ∧
      (pingReceivePack ip identifier (TimedScan.endless stream) sequenceNumber timeout
        recursionLimit start).1 = none := by
  obtain ⟨unfound, position⟩ := TimedScan.scan_endless_exhausted prompt fun j inside =>
    judge_of_isForeignReply (foreign j inside)
  rw [pingReceivePack_eq_scan]
  exact ⟨position, by rw [unfound]; rfl⟩

end Waits

/-- On an endless stream of complete datagrams that arrive in time, a wait scans exactly. -/
theorem pingReceivePack_scansExactly (ip : IpType) (identifier : UInt16)
    (sequenceNumber timeout : Int) (stream : Nat → Arrival Datagram) (start : Cursor)
    (complete : ∀ position, Complete ip (stream position).message.bytes)
    (prompt : TimedScan.Prompt stream timeout start) :
    ScansExactly ip identifier sequenceNumber stream start.position
      (pingReceivePack ip identifier (TimedScan.endless stream) sequenceNumber timeout
        recursionLimit start) where
  consumed k first := by
    by_cases within : k ≤ recursionLimit
    · have least : min k 256 = k := Nat.min_eq_left within
      rw [(pingReceivePack_of_firstOther prompt complete within first).1, least, Nat.add_assoc]
    · have least : min k 256 = recursionLimit := Nat.min_eq_right (Nat.le_of_not_le within)
      rw [(pingReceivePack_of_foreign prompt fun j inside => first.1 j (by omega)).1, least,
        Nat.add_assoc]
  answered k within first := (pingReceivePack_of_firstOther prompt complete within first).2
  exhausted k beyond first :=
    (pingReceivePack_of_foreign prompt fun j inside =>
      first.1 j (Nat.lt_of_le_of_lt inside beyond)).2
  unending foreign := pingReceivePack_of_foreign prompt fun j _ => foreign j

/-- Foreign replies of a neighbour arrive all at once. -/
def neighbourStream : Nat → Arrival Datagram := fun _ => ⟨0, replyDatagram hostAddress 8 0⟩

theorem neighbourStream_complete (position : Nat) :
    Complete .useIpv4 (neighbourStream position).message.bytes := by
  rw [neighbourStream]
  decide +kernel

theorem neighbourStream_prompt : TimedScan.Prompt neighbourStream 1000 ⟨0, 0⟩ := by
  have clock (k : Nat) :
      ((TimedScan.step (TimedScan.endless neighbourStream))^[k] ⟨0, 0⟩).clock = 0 := by
    induction k with
    | zero => rfl
    | succ k ih =>
        rw [Function.iterate_succ_apply', TimedScan.step_of_arrival rfl]
        simp only [TimedScan.read, ih]
        rfl
  intro k
  rw [clock]
  exact show (0 : Int) < 0 + 1000 by decide

/-- The wait takes 257 of them and leaves the others. -/
theorem pingReceivePack_scansExactly_neighbour :
    ScansExactly .useIpv4 7 0 neighbourStream 0
      (pingReceivePack .useIpv4 7 (TimedScan.endless neighbourStream) 0 1000 recursionLimit
        ⟨0, 0⟩) :=
  pingReceivePack_scansExactly .useIpv4 7 0 1000 neighbourStream ⟨0, 0⟩
    neighbourStream_complete neighbourStream_prompt

end NetworkTools
