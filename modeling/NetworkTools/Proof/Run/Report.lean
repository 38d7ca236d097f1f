/-
This file proves which runs the ping report counts right.
-/

import NetworkTools.Proof.Receive.Completeness
import NetworkTools.Proof.Run.Attribution

namespace NetworkTools
open Library Specification

variable {ip : IpType} {network : Network} {dest : String} {count ttl timeout : Int}

theorem Probe.replied_iff (network : Network) (probe : Probe ip) :
    probe.replied network = true ↔ ∃ arrival, probe.source network.traffic = some arrival ∧
      IsEchoReply ip network.identifier probe.sequenceNumber arrival.message.bytes := by
  rw [Probe.replied, Option.any_eq_true]
  simp only [decide_eq_true_eq]

/-- An entry has a length exactly when a datagram with at least one byte answers its round. -/
theorem Probe.Valid.length_ne_zero_iff {probe : Probe ip} (valid : probe.Valid network timeout) :
    probe.compose.length ≠ 0 ↔
      ∃ arrival, probe.source network.traffic = some arrival ∧ arrival.message.bytes ≠ [] := by
  cases isSource : probe.source network.traffic with
  | none =>
      rw [valid.compose_of_sourceless isSource]
      simp
  | some arrival =>
      rw [withoutElapsed_length (valid.takes_of_source isSource).2.1]
      simp

/-- The filter keeps exactly the entries with a length. -/
theorem successes_length (ip : IpType) (composes : List (IcmpCompose ip)) :
    (successes (composes.map (pingEntry ip))).length =
      composes.countP fun compose => decide (compose.length ≠ 0) := by
  induction composes with
  | nil => rfl
  | cons compose rest ih =>
      by_cases empty : compose.length = 0
      · have entry : pingEntry ip compose = .error "timeout" := if_pos empty
        rw [List.countP_cons_of_neg (by simp [empty]), ← ih]
        simp [successes, entry]
      · rw [List.countP_cons_of_pos (by simp [empty]), ← ih]
        simp [successes, pingEntry, empty]

/-- A run without an exception turns each round into one entry. -/
theorem ping_of_returned {entries : List (IcmpCompose ip)}
    (returned : asyncPing ip network dest count ttl (ofMilliseconds timeout) = .ok entries) :
    ping ip network dest count ttl timeout = entries.map (pingEntry ip) := by
  rw [ping, coSpawn, returned]
  rfl

/-- An exception leaves one error entry, whatever the earlier rounds brought. -/
theorem ping_of_failed {what : String}
    (failed : (pingRun ip network dest count ttl (ofMilliseconds timeout)).failure = some what) :
    ping ip network dest count ttl timeout = [.error what] := by
  simp only [ping, coSpawn, asyncPing, failed, pingList]

/-- A successful entry of the list is the entry of an answered round. -/
theorem ping_success_iff {entries : List (IcmpCompose ip)}
    (returned : asyncPing ip network dest count ttl (ofMilliseconds timeout) = .ok entries)
    (index : Nat) (success : PingSuccess) :
    (ping ip network dest count ttl timeout)[index]? = some (.success success) ↔
      ∃ probe, (pingRun ip network dest count ttl (ofMilliseconds timeout)).probes[index]? =
          some probe ∧ pingEntry ip probe.compose = .success success := by
  rw [ping_of_returned returned, (asyncPing_ok_iff.mp returned).2, List.map_map,
    List.getElem?_map, Option.map_eq_some_iff]
  rfl

/-- The report counts the rounds of a run whose entries have a length. -/
theorem received_of_returned {entries : List (IcmpCompose ip)}
    (returned : asyncPing ip network dest count ttl (ofMilliseconds timeout) = .ok entries) :
    (formatPingResult (ping ip network dest count ttl timeout)).received =
      (pingRun ip network dest count ttl (ofMilliseconds timeout)).probes.countP
        fun probe => decide (probe.compose.length ≠ 0) := by
  rw [ping_of_returned returned, (asyncPing_ok_iff.mp returned).2]
  change (successes _).length = _
  rw [successes_length, List.countP_map]
  rfl

theorem pingEntry_success {compose : IcmpCompose ip} {success : PingSuccess}
    (entry : pingEntry ip compose = .success success) :
    compose.length ≠ 0 ∧ success.icmpSeq = compose.icmpHd.sequenceNumber := by
  unfold pingEntry at entry
  split at entry
  · simp at entry
  · next nonzero =>
      obtain rfl := PingEntry.success.inj entry
      exact ⟨nonzero, rfl⟩

theorem pingEntry_of_length {compose : IcmpCompose ip} (nonzero : compose.length ≠ 0) :
    ∃ success, pingEntry ip compose = .success success := ⟨_, if_neg nonzero⟩

theorem nonempty_of_complete {bytes : List UInt8} (complete : Complete ip bytes) :
    bytes ≠ [] := by
  rintro rfl
  exact absurd (complete_length ip [] complete) (by decide)

section Genuine

variable {entries : List (IcmpCompose ip)}
  (returned : asyncPing ip network dest count ttl (ofMilliseconds timeout) = .ok entries)
  (genuine : ∀ (index : Nat) probe arrival,
    (pingRun ip network dest count ttl (ofMilliseconds timeout)).probes[index]? = some probe →
    probe.source network.traffic = some arrival → arrival.message.bytes ≠ [] →
      IsEchoReply ip network.identifier index arrival.message.bytes)

include returned genuine

/-- When only own echo replies fill entries, each success carries its position. -/
theorem success_of_genuine (index : Nat) (success : PingSuccess)
    (here : (ping ip network dest count ttl timeout)[index]? = some (.success success)) :
    (∃ arrival, (pingCrediting ip network dest count ttl (ofMilliseconds timeout)).Credits
        network.traffic index arrival ∧
      IsEchoReply ip network.identifier index arrival.message.bytes) ∧
    success.icmpSeq.toNat = index := by
  obtain ⟨probe, present, entry⟩ := (ping_success_iff returned index success).mp here
  obtain ⟨nonzero, sameNumber⟩ := pingEntry_success entry
  have valid := (pingRun_valid present).1
  obtain ⟨arrival, isSource, nonempty⟩ := valid.length_ne_zero_iff.mp nonzero
  have isReply := genuine index probe arrival present isSource nonempty
  have filled := (valid.takes_of_source isSource).2.1
  have sameSequence := ((readsAsProbe_iff ip _ _ _ arrival.message.sender).mp isReply.2.2).2
  refine ⟨⟨arrival, (pingCrediting_credits_iff present arrival).mpr isSource, isReply⟩, ?_⟩
  rw [sameNumber, withoutElapsed_icmpHd filled]
  exact Int.ofNat.inj sameSequence

/-- When only own echo replies fill entries, the report counts the replied probes. -/
theorem received_of_genuine :
    (formatPingResult (ping ip network dest count ttl timeout)).received =
      (pingRun ip network dest count ttl (ofMilliseconds timeout)).probes.countP
        (Probe.replied network) := by
  rw [received_of_returned returned]
  apply List.countP_congr
  intro probe member
  obtain ⟨index, present⟩ := List.mem_iff_getElem?.mp member
  obtain ⟨valid, _, number⟩ := pingRun_valid present
  rw [decide_eq_true_eq, valid.length_ne_zero_iff, probe.replied_iff network, number]
  apply Iff.intro
  · intro lengthy
    rcases lengthy with ⟨arrival, isSource, nonempty⟩
    exact ⟨arrival, isSource, genuine index probe arrival present isSource nonempty⟩
  · intro replied
    rcases replied with ⟨arrival, isSource, complete, _⟩
    exact ⟨arrival, isSource, nonempty_of_complete complete⟩

end Genuine

/-- The successes are the own echo replies exactly when no round takes another kind of answer. -/
theorem ping_success_isEchoReply_iff {entries : List (IcmpCompose ip)}
    (returned : asyncPing ip network dest count ttl (ofMilliseconds timeout) = .ok entries) :
    ((∀ (index : Nat) success,
        (ping ip network dest count ttl timeout)[index]? = some (.success success) →
        (∃ arrival, (pingCrediting ip network dest count ttl (ofMilliseconds timeout)).Credits
            network.traffic index arrival ∧
          IsEchoReply ip network.identifier index arrival.message.bytes) ∧
        success.icmpSeq.toNat = index) ∧
      (formatPingResult (ping ip network dest count ttl timeout)).received =
        (pingRun ip network dest count ttl (ofMilliseconds timeout)).probes.countP
          (Probe.replied network)) ↔
      ∀ destination index position arrival,
        PingTakes ip network dest count ttl (ofMilliseconds timeout) destination index position
          arrival → arrival.message.bytes ≠ [] →
          ¬ ReadsAsType ip ip.timeExceeded arrival.message.bytes ∧
          ¬ TruncatedAnswer ip network.identifier index arrival.message.bytes := by
  apply Iff.intro
  · intro right destination index position arrival taken nonempty
    rcases right with ⟨holds, _⟩
    obtain ⟨probe, present, _, takes⟩ := takes_of_pingTakes taken
    obtain ⟨valid, _, number⟩ := pingRun_valid present
    -- Whatever the wait takes for an answer becomes a success, so it must be an echo reply.
    have isReply (kind : ReadsAsAnswer ip network.identifier index arrival.message.bytes) :
        IsEchoReply ip network.identifier index arrival.message.bytes := by
      rw [← number] at kind
      obtain ⟨isSource, _⟩ := valid.source_of_takes takes kind
      obtain ⟨success, entry⟩ := pingEntry_of_length
        (valid.length_ne_zero_iff.mpr ⟨arrival, isSource, nonempty⟩)
      obtain ⟨⟨other, credits, isOther⟩, _⟩ :=
        holds index success ((ping_success_iff returned index success).mpr ⟨probe, present, entry⟩)
      rw [pingCrediting_credits_iff present, isSource, Option.some.injEq] at credits
      rwa [credits]
    apply And.intro
    · intro exceeded
      exact (isEchoReply_iff.mp (isReply (.inl exceeded))).2.1 exceeded
    · intro truncated
      exact (isEchoReply_iff.mp (isReply truncated.2)).2.2 truncated
  · intro clean
    have genuine : ∀ (index : Nat) probe arrival,
        (pingRun ip network dest count ttl (ofMilliseconds timeout)).probes[index]? = some probe →
        probe.source network.traffic = some arrival → arrival.message.bytes ≠ [] →
          IsEchoReply ip network.identifier index arrival.message.bytes := by
      intro index probe arrival present isSource nonempty
      obtain ⟨valid, _, number⟩ := pingRun_valid present
      obtain ⟨takes, _, kind⟩ := valid.takes_of_source isSource
      rw [number] at kind
      obtain ⟨position, taken⟩ := pingTakes_of_takes present takes
      exact isEchoReply_iff.mpr ⟨kind, clean _ index position arrival taken nonempty⟩
    exact ⟨success_of_genuine returned genuine, received_of_genuine returned genuine⟩

/-- The host answers both probes of this run. -/
def answeredTwice : Network := deliveringNetwork 7
  [⟨1, replyDatagram hostAddress 7 0⟩, ⟨2, replyDatagram hostAddress 7 1⟩]

theorem ping_success_isEchoReply_answered :
    ((∀ (index : Nat) success,
        (ping .useIpv4 answeredTwice "host" 2 64 1000)[index]? = some (.success success) →
        (∃ arrival, (pingCrediting .useIpv4 answeredTwice "host" 2 64
              (ofMilliseconds 1000)).Credits answeredTwice.traffic index arrival ∧
          IsEchoReply .useIpv4 7 index arrival.message.bytes) ∧
        success.icmpSeq.toNat = index) ∧
      (formatPingResult (ping .useIpv4 answeredTwice "host" 2 64 1000)).received =
        (pingRun .useIpv4 answeredTwice "host" 2 64 (ofMilliseconds 1000)).probes.countP
          (Probe.replied answeredTwice)) ↔
      ∀ destination index position arrival,
        PingTakes .useIpv4 answeredTwice "host" 2 64 (ofMilliseconds 1000) destination index
          position arrival → arrival.message.bytes ≠ [] →
          ¬ ReadsAsType .useIpv4 IpType.useIpv4.timeExceeded arrival.message.bytes ∧
          ¬ TruncatedAnswer .useIpv4 7 index arrival.message.bytes :=
  ping_success_isEchoReply_iff (asyncPing_ok_iff.mpr ⟨by decide +kernel, rfl⟩)

/-- The first router drops both probes of this run. -/
def droppedTwice : Network := deliveringNetwork 7
  [⟨1, exceededDatagram routerAddress 7 0⟩, ⟨2, exceededDatagram routerAddress 7 1⟩]

/-- Two dropped probes count as received, and both carry the sequence number zero. -/
theorem ping_success_dropped :
    ping .useIpv4 droppedTwice "host" 2 1 1000 =
        [.success ⟨60, .v4 routerAddress, 0, 64, 0⟩, .success ⟨60, .v4 routerAddress, 0, 64, 0⟩] ∧
      (formatPingResult (ping .useIpv4 droppedTwice "host" 2 1 1000)).received = 2 ∧
      (pingRun .useIpv4 droppedTwice "host" 2 1 (ofMilliseconds 1000)).probes.countP
        (Probe.replied droppedTwice) = 0 := by
  decide +kernel

/-- A run without an exception is reported right unless an empty datagram passes for an answer. -/
theorem reportsRun_of_returned_iff {entries : List (IcmpCompose ip)}
    (returned : asyncPing ip network dest count ttl (ofMilliseconds timeout) = .ok entries) :
    ReportsRun ip network dest count ttl timeout ↔
      ∀ destination index position arrival,
        PingTakes ip network dest count ttl (ofMilliseconds timeout) destination index position
          arrival → arrival.message.bytes = [] →
          ¬ TruncatedAnswer ip network.identifier index [] := by
  apply Iff.intro
  · intro reports destination index position arrival taken empty truncated
    rcases reports with ⟨_, _, kept⟩
    obtain ⟨probe, present, _, takes⟩ := takes_of_pingTakes taken
    rcases truncated with ⟨_, kind⟩
    obtain ⟨valid, _, number⟩ := pingRun_valid present
    rw [← number, ← empty] at kind
    obtain ⟨success, entry, _⟩ :=
      kept index probe present (valid.answer_isSome_iff.mpr ⟨arrival, takes, kind⟩)
    have filled := (valid.source_of_takes takes kind).2
    apply (pingEntry_success entry).1
    rw [withoutElapsed_length filled, empty, List.length_nil]
  · intro clean
    have lengthy {index : Nat} {probe : Probe ip}
        (present : (pingRun ip network dest count ttl (ofMilliseconds timeout)).probes[index]? =
          some probe) : probe.compose.length ≠ 0 ↔ probe.answer.isSome = true := by
      obtain ⟨valid, _, number⟩ := pingRun_valid present
      rw [valid.length_ne_zero_iff, valid.answer_isSome_iff]
      apply Iff.intro
      · intro sourced
        rcases sourced with ⟨arrival, isSource, _⟩
        obtain ⟨takes, _, kind⟩ := valid.takes_of_source isSource
        exact ⟨arrival, takes, kind⟩
      · intro answered
        rcases answered with ⟨arrival, takes, kind⟩
        refine ⟨arrival, (valid.source_of_takes takes kind).1, fun empty => ?_⟩
        obtain ⟨position, taken⟩ := pingTakes_of_takes present takes
        apply clean _ index position arrival taken empty
        rw [← number, ← empty]
        exact ⟨fun complete => nonempty_of_complete complete empty, kind⟩
    refine ⟨?_, ?_, ?_⟩
    · change (ping ip network dest count ttl timeout).length = _
      rw [ping_of_returned returned, (asyncPing_ok_iff.mp returned).2, List.length_map,
        List.length_map]
    · rw [received_of_returned returned]
      apply List.countP_congr
      intro probe member
      obtain ⟨index, present⟩ := List.mem_iff_getElem?.mp member
      rw [decide_eq_true_eq]
      exact lengthy present
    · intro index probe present answered
      obtain ⟨success, entry⟩ := pingEntry_of_length ((lengthy present).mpr answered)
      exact ⟨success, entry, (ping_success_iff returned index success).mpr ⟨probe, present, entry⟩⟩

/-- A run with an exception is reported right only after one unanswered round. -/
theorem reportsRun_of_failed_iff {what : String}
    (failed : (pingRun ip network dest count ttl (ofMilliseconds timeout)).failure = some what) :
    ReportsRun ip network dest count ttl timeout ↔
      ∃ probe, (pingRun ip network dest count ttl (ofMilliseconds timeout)).probes = [probe] ∧
        probe.answer = none := by
  rw [ReportsRun, ping_of_failed failed]
  change 1 = _ ∧ 0 = _ ∧ _ ↔ _
  apply Iff.intro
  · intro reports
    rcases reports with ⟨transmitted, received, _⟩
    obtain ⟨probe, single⟩ := List.length_eq_one_iff.mp transmitted.symm
    refine ⟨probe, single, Option.not_isSome_iff_eq_none.mp ?_⟩
    apply List.countP_eq_zero.mp received.symm
    rw [single]
    exact List.mem_singleton_self probe
  · intro silent
    rcases silent with ⟨probe, single, unanswered⟩
    rw [single]
    refine ⟨rfl, by simp [unanswered], ?_⟩
    intro index other present answered
    obtain rfl := List.mem_singleton.mp (List.mem_of_getElem? present)
    rw [unanswered] at answered
    exact absurd answered (by simp)

/-- A prepared run with an exception is reported right only for a second send after silence. -/
theorem reportsRun_of_thrown_iff (positive : 1 ≤ count) (hops : 1 ≤ ttl)
    (prepared : network.Prepared dest ttl) {what : String}
    (failed : (pingRun ip network dest count ttl (ofMilliseconds timeout)).failure = some what) :
    ReportsRun ip network dest count ttl timeout ↔
      1 < count ∧ (∃ delay, network.send 0 = .ok delay) ∧
        (∃ what, network.send 1 = .error what) ∧
        ∀ destination position arrival,
          PingTakes ip network dest count ttl (ofMilliseconds timeout) destination 0 position
            arrival → ¬ ReadsAsAnswer ip network.identifier 0 arrival.message.bytes := by
  have single (what : String) :
      (pingRun ip network dest count ttl (ofMilliseconds timeout)).failure = some what ∧
        (pingRun ip network dest count ttl (ofMilliseconds timeout)).probes.length = 1 ↔ _ :=
    pingRun_failed_iff (by omega) (by omega) prepared 1 what
  rw [reportsRun_of_failed_iff failed]
  apply Iff.intro
  · intro silent
    rcases silent with ⟨probe, isSingle, unanswered⟩
    obtain ⟨more, before, here⟩ := (single what).mp ⟨failed, by rw [isSingle]; rfl⟩
    refine ⟨more, before 0 (by omega), ⟨what, here⟩, ?_⟩
    intro destination position arrival taken kind
    obtain ⟨other, present, _, takes⟩ := takes_of_pingTakes taken
    obtain ⟨valid, _, number⟩ := pingRun_valid present
    obtain rfl := List.mem_singleton.mp (isSingle ▸ List.mem_of_getElem? present)
    rw [show (0 : Int) = other.sequenceNumber from number.symm] at kind
    have answered := valid.answer_isSome_iff.mpr ⟨arrival, takes, kind⟩
    rw [unanswered] at answered
    exact absurd answered (by simp)
  · intro second
    rcases second with ⟨more, first, ⟨other, here⟩, silent⟩
    have before : ∀ j : Nat, j < 1 → ∃ delay, network.send j = .ok delay := by
      intro j inside
      obtain rfl : j = 0 := by omega
      exact first
    obtain ⟨probe, isSingle⟩ :=
      List.length_eq_one_iff.mp ((single other).mpr ⟨more, before, here⟩).2
    have present : (pingRun ip network dest count ttl
        (ofMilliseconds timeout)).probes[0]? = some probe := by rw [isSingle]; rfl
    obtain ⟨valid, _, number⟩ := pingRun_valid present
    refine ⟨probe, isSingle, Option.not_isSome_iff_eq_none.mp fun answered => ?_⟩
    obtain ⟨arrival, takes, kind⟩ := valid.answer_isSome_iff.mp answered
    rw [number] at kind
    obtain ⟨position, taken⟩ := pingTakes_of_takes present takes
    exact silent _ position arrival taken kind

/-- The report is right exactly for whole runs and for a second send that fails in silence. -/
theorem reportsRun_iff (ip : IpType) (network : Network) (dest : String)
    (count ttl timeout : Int) (positive : 1 ≤ count) (hops : 1 ≤ ttl) :
    ReportsRun ip network dest count ttl timeout ↔
      network.Prepared dest ttl ∧
        ((∀ index : Int, 0 ≤ index → index < count → ∃ delay, network.send index = .ok delay) ∧
            (∀ destination index position arrival,
              PingTakes ip network dest count ttl (ofMilliseconds timeout) destination index
                position arrival → arrival.message.bytes = [] →
                ¬ TruncatedAnswer ip network.identifier index []) ∨
          1 < count ∧ (∃ delay, network.send 0 = .ok delay) ∧
            (∃ what, network.send 1 = .error what) ∧
            ∀ destination position arrival,
              PingTakes ip network dest count ttl (ofMilliseconds timeout) destination 0 position
                arrival → ¬ ReadsAsAnswer ip network.identifier 0 arrival.message.bytes) := by
  by_cases prepared : network.Prepared dest ttl
  · have sends : (pingRun ip network dest count ttl (ofMilliseconds timeout)).failure = none ↔ _ :=
      pingRun_failure_eq_none_iff (by omega) (by omega) prepared
    rw [and_iff_right prepared]
    cases failed : (pingRun ip network dest count ttl (ofMilliseconds timeout)).failure with
    | none =>
        have sent := sends.mp failed
        rw [reportsRun_of_returned_iff (asyncPing_ok_iff.mpr ⟨failed, rfl⟩), and_iff_right sent,
          or_iff_left]
        intro second
        rcases second with ⟨more, _, ⟨what, throws⟩, _⟩
        obtain ⟨delay, isSent⟩ := sent 1 (by omega) more
        rw [throws] at isSent
        exact absurd isSent (by simp)
    | some what =>
        have throws : ¬ ∀ index : Int, 0 ≤ index → index < count →
            ∃ delay, network.send index = .ok delay := by
          rw [← sends, failed]
          simp
        rw [reportsRun_of_thrown_iff positive hops prepared failed,
          or_iff_right fun whole => throws whole.1]
  · obtain ⟨what, empty⟩ : ∃ what,
        pingRun ip network dest count ttl (ofMilliseconds timeout) = ⟨[], some what⟩ :=
      pingRun_of_unprepared (by omega) (by omega) prepared
    rw [reportsRun_of_failed_iff (by rw [empty])]
    simp [empty, prepared]

theorem reportsRun_answered : ReportsRun .useIpv4 answeredTwice "host" 2 64 1000 := by
  apply (reportsRun_iff .useIpv4 answeredTwice "host" 2 64 1000 (by decide) (by decide)).mpr
  refine ⟨⟨rfl, ⟨.v4 hostAddress, rfl⟩, rfl⟩, .inl ⟨fun _ _ _ => ⟨0, rfl⟩, ?_⟩⟩
  intro destination index position arrival _ _ truncated
  rcases truncated.2 with exceeded | ⟨_, own⟩
  · exact absurd exceeded (by decide)
  · exact absurd own.1 (by decide)

/-- The third send of this run throws. -/
def brokenThird : Network :=
  { answeredTwice with
    send := fun index => if index = 2 then .error "Network is unreachable" else .ok 0 }

/-- Two answered probes are lost from the report when the third send throws. -/
theorem reportsRun_broken :
    (pingRun .useIpv4 brokenThird "host" 4 64 (ofMilliseconds 1000)).probes.length = 2 ∧
      (pingRun .useIpv4 brokenThird "host" 4 64 (ofMilliseconds 1000)).probes.countP
        (fun probe => probe.answer.isSome) = 2 ∧
      ping .useIpv4 brokenThird "host" 4 64 1000 = [.error "Network is unreachable"] ∧
      (formatPingResult (ping .useIpv4 brokenThird "host" 4 64 1000)).transmitted = 1 ∧
      (formatPingResult (ping .useIpv4 brokenThird "host" 4 64 1000)).received = 0 := by
  decide +kernel

end NetworkTools
