/-
This file proves that one probe's wait is a bounded scan of the socket queue.
-/

import NetworkTools.Proof.Receive.Extraction
import NetworkTools.Specification.Reception

namespace NetworkTools
open Library Specification

@[simp] theorem accepted_withoutElapsed (ip : IpType) (datagram : Datagram) :
    (accepted ip datagram).withoutElapsed = accepted ip datagram := rfl

theorem echoReply_ne_timeExceeded (ip : IpType) : ip.echoReply ≠ ip.timeExceeded := by
  cases ip <;> decide

theorem readsAsProbe_iff (ip : IpType) (identifier : UInt16) (sequenceNumber : Int)
    (bytes : List UInt8) (sender : AddressV6) :
    ReadsAsProbe ip identifier sequenceNumber bytes ↔
      (readHeaders ip ⟨bytes, true⟩ sender).2.identifier = identifier ∧
        ((readHeaders ip ⟨bytes, true⟩ sender).2.sequenceNumber.toNat : Int) =
          sequenceNumber := by
  rw [ReadsAsProbe, ← readHeaders_identifier ip bytes sender,
    ← readHeaders_sequenceNumber ip bytes sender, UInt16.toNat_inj]

section Verdicts

variable {ip : IpType} {identifier : UInt16} {sequenceNumber : Int} {datagram : Datagram}

/-- The receiver accepts each time-exceeded message by its type alone. -/
theorem judge_of_timeExceeded (exceeded : ReadsAsType ip ip.timeExceeded datagram.bytes) :
    judge ip identifier sequenceNumber datagram = .settle (some (accepted ip datagram)) :=
  if_pos exceeded

theorem not_timeExceeded_of_echoReply (reply : ReadsAsType ip ip.echoReply datagram.bytes) :
    ¬ ReadsAsType ip ip.timeExceeded datagram.bytes :=
  fun exceeded => echoReply_ne_timeExceeded ip (reply.symm.trans exceeded)

theorem judge_of_ownReply (reply : ReadsAsType ip ip.echoReply datagram.bytes)
    (own : ReadsAsProbe ip identifier sequenceNumber datagram.bytes) :
    judge ip identifier sequenceNumber datagram = .settle (some (accepted ip datagram)) := by
  rw [judge, if_neg (not_timeExceeded_of_echoReply reply), if_pos reply, if_pos own]

theorem judge_of_foreignReply (reply : ReadsAsType ip ip.echoReply datagram.bytes)
    (foreign : ¬ ReadsAsProbe ip identifier sequenceNumber datagram.bytes) :
    judge ip identifier sequenceNumber datagram = .skip := by
  rw [judge, if_neg (not_timeExceeded_of_echoReply reply), if_pos reply, if_neg foreign]

/-- Any other message type ends the wait. -/
theorem judge_of_other (notExceeded : ¬ ReadsAsType ip ip.timeExceeded datagram.bytes)
    (notReply : ¬ ReadsAsType ip ip.echoReply datagram.bytes) :
    judge ip identifier sequenceNumber datagram = .settle none := by
  rw [judge, if_neg notExceeded, if_neg notReply]

/-- An answer that is neither a time-exceeded message nor cut short is an echo reply. -/
theorem isEchoReply_iff :
    IsEchoReply ip identifier sequenceNumber datagram.bytes ↔
      ReadsAsAnswer ip identifier sequenceNumber datagram.bytes ∧
        ¬ ReadsAsType ip ip.timeExceeded datagram.bytes ∧
        ¬ TruncatedAnswer ip identifier sequenceNumber datagram.bytes := by
  apply Iff.intro
  · intro isReply
    rcases isReply with ⟨complete, reply, own⟩
    exact ⟨.inr ⟨reply, own⟩, not_timeExceeded_of_echoReply reply,
      fun truncated => truncated.1 complete⟩
  · intro answer
    rcases answer with ⟨exceeded | own, notExceeded, whole⟩
    · exact absurd exceeded notExceeded
    · exact ⟨by_contra fun incomplete => whole ⟨incomplete, .inr own⟩, own⟩

/-- The scan skips exactly the echo replies of another identity. -/
theorem judge_eq_skip_iff :
    judge ip identifier sequenceNumber datagram = .skip ↔
      ReadsAsType ip ip.echoReply datagram.bytes ∧
        ¬ ReadsAsProbe ip identifier sequenceNumber datagram.bytes := by
  apply Iff.intro
  · intro skip
    by_cases exceeded : ReadsAsType ip ip.timeExceeded datagram.bytes
    · simp [judge_of_timeExceeded exceeded] at skip
    by_cases reply : ReadsAsType ip ip.echoReply datagram.bytes
    · refine ⟨reply, fun own => ?_⟩
      simp [judge_of_ownReply reply own] at skip
    · simp [judge_of_other exceeded reply] at skip
  · exact fun ⟨reply, foreign⟩ => judge_of_foreignReply reply foreign

/-- The scan accepts exactly the time-exceeded messages and the own echo replies. -/
theorem judge_eq_accept_iff (compose : IcmpCompose ip) :
    judge ip identifier sequenceNumber datagram = .settle (some compose) ↔
      compose = accepted ip datagram ∧
        ReadsAsAnswer ip identifier sequenceNumber datagram.bytes := by
  apply Iff.intro
  · intro accept
    by_cases exceeded : ReadsAsType ip ip.timeExceeded datagram.bytes
    · rw [judge_of_timeExceeded exceeded] at accept
      exact ⟨by simpa using accept.symm, .inl exceeded⟩
    by_cases reply : ReadsAsType ip ip.echoReply datagram.bytes
    · by_cases own : ReadsAsProbe ip identifier sequenceNumber datagram.bytes
      · rw [judge_of_ownReply reply own] at accept
        exact ⟨by simpa using accept.symm, .inr ⟨reply, own⟩⟩
      · simp [judge_of_foreignReply reply own] at accept
    · simp [judge_of_other exceeded reply] at accept
  · intro answer
    rcases answer with ⟨rfl, exceeded | ⟨reply, own⟩⟩
    · exact judge_of_timeExceeded exceeded
    · exact judge_of_ownReply reply own

end Verdicts

/-- A received datagram leads to the branch that its verdict names. -/
theorem pingReceivePack_received {ip : IpType} {identifier : UInt16}
    {traffic : Traffic Datagram} {sequenceNumber timeout : Int} {left : Nat}
    {cursor next : Cursor} {datagram : Datagram}
    (received : TimedScan.wait traffic timeout cursor = (some datagram, next)) :
    pingReceivePack ip identifier traffic sequenceNumber timeout left cursor =
      match judge ip identifier sequenceNumber datagram, left with
      | .settle result, _ =>
          (result.map fun compose => compose.withElapsed (next.clock - cursor.clock), next)
      | .skip, 0 => (none, next)
      | .skip, left + 1 =>
          pingReceivePack ip identifier traffic sequenceNumber timeout left next := by
  have sameType := readHeaders_type ip datagram.bytes datagram.sender
  have sameProbe := readsAsProbe_iff ip identifier sequenceNumber datagram.bytes datagram.sender
  rw [pingReceivePack, received]
  simp only [Bool.not_true, Bool.false_eq_true, ite_false, sameType]
  by_cases exceeded : ReadsAsType ip ip.timeExceeded datagram.bytes
  · rw [if_pos (show byteAt _ 0 = _ from exceeded), judge_of_timeExceeded exceeded]
    rfl
  rw [if_neg (show ¬ byteAt _ 0 = _ from exceeded)]
  by_cases reply : ReadsAsType ip ip.echoReply datagram.bytes
  · rw [if_pos (show byteAt _ 0 = _ from reply)]
    by_cases own : ReadsAsProbe ip identifier sequenceNumber datagram.bytes
    · have ⟨sameIdentifier, sameSequence⟩ := sameProbe.mp own
      rw [if_neg (not_not.mpr sameIdentifier), if_pos sameSequence, judge_of_ownReply reply own]
      rfl
    · rw [judge_of_foreignReply reply own]
      by_cases sameIdentifier :
          (readHeaders ip ⟨datagram.bytes, true⟩ datagram.sender).2.identifier = identifier
      · rw [if_neg (not_not.mpr sameIdentifier),
          if_neg fun sameSequence => own (sameProbe.mpr ⟨sameIdentifier, sameSequence⟩)]
        cases left <;> rfl
      · rw [if_pos sameIdentifier]
        cases left <;> rfl
  · rw [if_neg (show ¬ byteAt _ 0 = _ from reply), judge_of_other exceeded reply]
    rfl

/-- Each recursion of the receiver is one step of the scan. -/
theorem pingReceivePack_eq_scan (ip : IpType) (identifier : UInt16) (traffic : Traffic Datagram)
    (sequenceNumber timeout : Int) (left : Nat) (cursor : Cursor) :
    pingReceivePack ip identifier traffic sequenceNumber timeout left cursor =
      ((TimedScan.scan (judge ip identifier sequenceNumber) traffic timeout left cursor).1.map
          fun found => found.1.withElapsed found.2,
        (TimedScan.scan (judge ip identifier sequenceNumber) traffic timeout left cursor).2) := by
  induction left generalizing cursor with
  | zero =>
      rcases received : TimedScan.wait traffic timeout cursor with ⟨_ | datagram, next⟩
      · rw [TimedScan.scan_of_expired 0 received, pingReceivePack, received]
        rfl
      · rw [pingReceivePack_received received]
        cases verdict : judge ip identifier sequenceNumber datagram with
        | settle result =>
            rw [TimedScan.scan_of_settled 0 received verdict]
            cases result <;> rfl
        | skip =>
            rw [TimedScan.scan_of_exhausted received verdict]
            rfl
  | succ left ih =>
      rcases received : TimedScan.wait traffic timeout cursor with ⟨_ | datagram, next⟩
      · rw [TimedScan.scan_of_expired _ received, pingReceivePack, received]
        rfl
      · rw [pingReceivePack_received received]
        cases verdict : judge ip identifier sequenceNumber datagram with
        | settle result =>
            rw [TimedScan.scan_of_settled _ received verdict]
            cases result <;> rfl
        | skip =>
            rw [TimedScan.scan_of_skipped left received verdict]
            exact ih next

/-- Apart from the elapsed time, the receiver returns what the scan settles on. -/
theorem pingReceivePack_withoutElapsed (ip : IpType) (identifier : UInt16)
    (traffic : Traffic Datagram) (sequenceNumber timeout : Int) (left : Nat) (cursor : Cursor) :
    (pingReceivePack ip identifier traffic sequenceNumber timeout left cursor).1.map
        IcmpCompose.withoutElapsed =
      ((TimedScan.scan (judge ip identifier sequenceNumber) traffic timeout left cursor).1.map
        Prod.fst).map IcmpCompose.withoutElapsed := by
  rw [pingReceivePack_eq_scan, Option.map_map, Option.map_map]
  rfl

/-- The receiver never moves backwards in the queue. -/
theorem pingReceivePack_position_le (ip : IpType) (identifier : UInt16)
    (traffic : Traffic Datagram) (sequenceNumber timeout : Int) (left : Nat) (cursor : Cursor) :
    cursor.position ≤
      (pingReceivePack ip identifier traffic sequenceNumber timeout left cursor).2.position := by
  rw [pingReceivePack_eq_scan]
  exact TimedScan.scan_position_le _ traffic timeout left cursor

section Results

variable {ip : IpType} {identifier : UInt16} {traffic : Traffic Datagram}
  {sequenceNumber timeout : Int} {left : Nat} {cursor ended : Cursor}

/-- A returned entry comes from the last datagram that the wait takes. -/
theorem pingReceivePack_some {compose : IcmpCompose ip}
    (found : pingReceivePack ip identifier traffic sequenceNumber timeout left cursor =
      (some compose, ended)) :
    ∃ skipped arrival, skipped ≤ left ∧
      TimedScan.Skips (judge ip identifier sequenceNumber) traffic timeout cursor skipped ∧
      traffic (cursor.position + skipped) = some arrival ∧
      ReadsAsAnswer ip identifier sequenceNumber arrival.message.bytes ∧
      ended = TimedScan.read ((TimedScan.step traffic)^[skipped] cursor) arrival ∧
      compose = (accepted ip arrival.message).withElapsed
        (ended.clock - ((TimedScan.step traffic)^[skipped] cursor).clock) := by
  rw [pingReceivePack_eq_scan] at found
  obtain ⟨sameResult, sameEnd⟩ := Prod.mk.inj found
  obtain ⟨⟨value, elapsed⟩, isFound, isCompose⟩ := Option.map_eq_some_iff.mp sameResult
  obtain ⟨skipped, arrival, within, skips, present, verdict, final, isElapsed⟩ :=
    TimedScan.scan_some (Prod.ext isFound sameEnd)
  obtain ⟨isAccepted, kind⟩ := (judge_eq_accept_iff value).mp verdict
  refine ⟨skipped, arrival, within, skips, present, kind, final, ?_⟩
  rw [← isCompose, isAccepted, isElapsed]

/-- The accepting wait ends right behind the accepted position. -/
theorem pingReceivePack_some_position {skipped : Nat} {arrival : Arrival Datagram}
    (skips : TimedScan.Skips (judge ip identifier sequenceNumber) traffic timeout cursor skipped)
    (final : ended = TimedScan.read ((TimedScan.step traffic)^[skipped] cursor) arrival) :
    ended.position = cursor.position + skipped + 1 := by
  rw [final, ← TimedScan.skips_position skips skipped (Nat.le_refl _)]
  rfl

end Results

end NetworkTools
