/-
This file proves what each round of a ping run keeps: its order and its waits.
-/

import NetworkTools.Proof.Receive.Verdict
import NetworkTools.Specification.Rounds

namespace NetworkTools
open Library Specification

variable {ip : IpType} {network : Network} {dest : String} {count ttl timeout : Int}

/-- An answer fills the entry and names the position that the wait took last. -/
theorem Probe.of_answer {probe : Probe ip} {compose : IcmpCompose ip}
    (answer : probe.answer = some compose) :
    probe.compose = compose ∧ probe.origin = some (probe.ended.position - 1) := by
  rw [Probe.compose, Probe.origin, answer]
  exact ⟨rfl, rfl⟩

/-- A round without an answer keeps the default entry and names no position. -/
theorem Probe.of_timeout {probe : Probe ip} (answer : probe.answer = none) :
    probe.compose = {} ∧ probe.origin = none := by
  rw [Probe.compose, Probe.origin, answer]
  exact ⟨rfl, rfl⟩

/-- A recorded round is one send and one wait of the pinger. -/
structure Probe.Valid (network : Network) (timeout : Int) (probe : Probe ip) : Prop where
  request : probe.request = requestBytes ip network.identifier probe.sequenceNumber
  waited : pingReceivePack ip network.identifier network.traffic probe.sequenceNumber timeout
    recursionLimit probe.began = (probe.answer, probe.ended)

section Round

variable {probe : Probe ip}

/-- The answer of a round is the last datagram that its wait takes. -/
theorem Probe.Valid.answered (valid : probe.Valid network timeout) {compose : IcmpCompose ip}
    (answer : probe.answer = some compose) :
    probe.began.position < probe.ended.position ∧
      ∃ arrival, network.traffic (probe.ended.position - 1) = some arrival ∧
        compose.withoutElapsed = accepted ip arrival.message ∧
        ReadsAsAnswer ip network.identifier probe.sequenceNumber arrival.message.bytes := by
  have waited := valid.waited
  rw [answer] at waited
  obtain ⟨skipped, arrival, _, skips, present, kind, final, isCompose⟩ :=
    pingReceivePack_some waited
  have position := pingReceivePack_some_position skips final
  refine ⟨by omega, arrival, ?_, ?_, kind⟩
  · rw [show probe.ended.position - 1 = probe.began.position + skipped by omega]
    exact present
  · rw [isCompose]
    rfl

/-- A taken datagram that the judge does not skip decides the answer. -/
theorem Probe.Valid.taken (valid : probe.Valid network timeout) {arrival : Arrival Datagram}
    (takes : probe.Takes network.traffic arrival) :
    judge ip network.identifier probe.sequenceNumber arrival.message = .skip ∨
      ∃ result,
        judge ip network.identifier probe.sequenceNumber arrival.message = .settle result ∧
        network.traffic (probe.ended.position - 1) = some arrival ∧
        probe.answer.map IcmpCompose.withoutElapsed =
          result.map IcmpCompose.withoutElapsed := by
  rcases takes with ⟨position, started, before, present⟩
  have waited := valid.waited
  rw [pingReceivePack_eq_scan] at waited
  obtain ⟨sameAnswer, sameEnd⟩ := Prod.mk.inj waited
  rw [← sameEnd] at before
  obtain ⟨other, here, verdict⟩ := TimedScan.scan_taken started before
  obtain rfl := Option.some.inj (here.symm.trans present)
  rcases verdict with skip | ⟨result, settled, last, decided⟩
  · exact .inl skip
  · refine .inr ⟨result, settled, ?_, ?_⟩
    · rw [← sameEnd, ← last, Nat.add_sub_cancel]
      exact present
    · rw [← sameAnswer, ← decided, Option.map_map, Option.map_map]
      rfl

end Round

/-- Each round of the loop is valid and starts no earlier than the loop. -/
theorem pingLoop_valid (destination : Address) (remaining : Nat) (sequenceNumber : Int)
    (cursor : Cursor) :
    ∀ probe ∈ (pingLoop ip network destination timeout remaining sequenceNumber cursor).probes,
      probe.Valid network timeout ∧ probe.destination = destination ∧
        cursor.position ≤ probe.began.position := by
  induction remaining generalizing sequenceNumber cursor with
  | zero => simp [pingLoop]
  | succ remaining ih =>
      intro probe member
      cases sent : network.send sequenceNumber with
      | error what => simp [pingLoop, pingSendPack, sent] at member
      | ok delay =>
          simp only [pingLoop, pingSendPack, sent, List.mem_cons] at member
          rcases member with rfl | later
          · exact ⟨⟨rfl, rfl⟩, rfl, Nat.le_refl _⟩
          · obtain ⟨valid, same, behind⟩ := ih _ _ probe later
            exact ⟨valid, same, Nat.le_trans (pingReceivePack_position_le ip network.identifier
              network.traffic sequenceNumber timeout recursionLimit
              ⟨cursor.position, cursor.clock + delay⟩) behind⟩

/-- The rounds of the loop take disjoint stretches of the queue, one after the other. -/
theorem pingLoop_ordered (destination : Address) (remaining : Nat) (sequenceNumber : Int)
    (cursor : Cursor) :
    (pingLoop ip network destination timeout remaining sequenceNumber cursor).probes.Pairwise
      fun earlier later => earlier.ended.position ≤ later.began.position := by
  induction remaining generalizing sequenceNumber cursor with
  | zero => simp [pingLoop]
  | succ remaining ih =>
      cases sent : network.send sequenceNumber with
      | error what => simp [pingLoop, pingSendPack, sent]
      | ok delay =>
          simp only [pingLoop, pingSendPack, sent, List.pairwise_cons]
          exact ⟨fun probe later => (pingLoop_valid destination _ _ _ probe later).2.2, ih _ _⟩

/-- The rounds count up from the first sequence number. -/
theorem pingLoop_sequenceNumber (destination : Address) (remaining : Nat) (sequenceNumber : Int)
    (cursor : Cursor) (index : Nat) (probe : Probe ip)
    (here : (pingLoop ip network destination timeout remaining sequenceNumber
      cursor).probes[index]? = some probe) :
    probe.sequenceNumber = sequenceNumber + index := by
  induction remaining generalizing sequenceNumber cursor index with
  | zero => simp [pingLoop] at here
  | succ remaining ih =>
      cases sent : network.send sequenceNumber with
      | error what => simp [pingLoop, pingSendPack, sent] at here
      | ok delay =>
          simp only [pingLoop, pingSendPack, sent] at here
          cases index with
          | zero =>
              rw [List.getElem?_cons_zero, Option.some.injEq] at here
              rw [← here]
              simp
          | succ index =>
              rw [List.getElem?_cons_succ] at here
              rw [ih _ _ index here]
              push_cast
              omega

/-- The loop completes all rounds when no send throws. -/
theorem pingLoop_complete (destination : Address) (remaining : Nat) (sequenceNumber : Int)
    (cursor : Cursor)
    (sent : ∀ k : Nat, k < remaining → ∃ delay, network.send (sequenceNumber + k) = .ok delay) :
    (pingLoop ip network destination timeout remaining sequenceNumber cursor).failure = none ∧
      (pingLoop ip network destination timeout remaining sequenceNumber
        cursor).probes.length = remaining := by
  induction remaining generalizing sequenceNumber cursor with
  | zero => exact ⟨rfl, rfl⟩
  | succ remaining ih =>
      obtain ⟨delay, first⟩ := sent 0 (by omega)
      rw [Int.natCast_zero, Int.add_zero] at first
      simp only [pingLoop, pingSendPack, first, List.length_cons, Nat.add_right_cancel_iff]
      apply ih
      intro k inside
      obtain ⟨later, isLater⟩ := sent (k + 1) (by omega)
      exact ⟨later, by rw [← isLater]; congr 1; push_cast; omega⟩

/-- The loop stops at the first send that throws. -/
theorem pingLoop_failed_iff (destination : Address) (remaining : Nat) (sequenceNumber : Int)
    (cursor : Cursor) (k : Nat) (what : String) :
    (pingLoop ip network destination timeout remaining sequenceNumber cursor).failure =
          some what ∧
        (pingLoop ip network destination timeout remaining sequenceNumber
          cursor).probes.length = k ↔
      k < remaining ∧ (∀ j : Nat, j < k → ∃ delay, network.send (sequenceNumber + j) = .ok delay) ∧
        network.send (sequenceNumber + k) = .error what := by
  induction remaining generalizing sequenceNumber cursor k with
  | zero => simp [pingLoop]
  | succ remaining ih =>
      cases sent : network.send sequenceNumber with
      | error other =>
          simp only [pingLoop, pingSendPack, sent, List.length_nil, Option.some.injEq]
          apply Iff.intro
          · intro failed
            rcases failed with ⟨rfl, rfl⟩
            refine ⟨by omega, fun j impossible => absurd impossible (Nat.not_lt_zero j), ?_⟩
            rw [Int.natCast_zero, Int.add_zero, sent]
          · intro first
            rcases first with ⟨_, before, here⟩
            cases k with
            | zero =>
                rw [Int.natCast_zero, Int.add_zero, sent, Except.error.injEq] at here
                exact ⟨here, rfl⟩
            | succ k =>
                obtain ⟨delay, first⟩ := before 0 (by omega)
                rw [Int.natCast_zero, Int.add_zero, sent] at first
                exact absurd first (by simp)
      | ok delay =>
          simp only [pingLoop, pingSendPack, sent, List.length_cons]
          cases k with
          | zero => simp [sent]
          | succ k =>
              have shift (j : Nat) : sequenceNumber + ((j + 1 : Nat) : Int) =
                  sequenceNumber + 1 + j := by
                push_cast
                omega
              rw [Nat.add_right_cancel_iff, ih, Nat.add_lt_add_iff_right, shift]
              refine and_congr_right fun _ => and_congr_left fun _ => ⟨?_, ?_⟩
              · intro later j inside
                cases j with
                | zero => exact ⟨delay, by rw [Int.natCast_zero, Int.add_zero, sent]⟩
                | succ j =>
                    rw [shift]
                    exact later j (by omega)
              · intro all j inside
                rw [← shift]
                exact all (j + 1) (by omega)

/-- The loop has no failure exactly when no send throws. -/
theorem pingLoop_failure_eq_none_iff (destination : Address) (remaining : Nat)
    (sequenceNumber : Int) (cursor : Cursor) :
    (pingLoop ip network destination timeout remaining sequenceNumber cursor).failure = none ↔
      ∀ k : Nat, k < remaining → ∃ delay, network.send (sequenceNumber + k) = .ok delay := by
  apply Iff.intro
  · intro complete k inside
    induction k using Nat.strongRecOn with
    | ind k ih =>
        cases sent : network.send (sequenceNumber + k) with
        | ok delay => exact ⟨delay, rfl⟩
        | error what =>
            have failed : (pingLoop ip network destination timeout remaining sequenceNumber
                cursor).failure = some what :=
              ((pingLoop_failed_iff destination remaining sequenceNumber cursor k what).mpr
                ⟨inside, fun j before => ih j before (by omega), sent⟩).1
            rw [complete] at failed
            exact absurd failed (by simp)
  · intro sent
    exact (pingLoop_complete destination remaining sequenceNumber cursor sent).1

/-- A run has no rounds, or it is the loop towards the resolved destination. -/
theorem pingRun_cases (ip : IpType) (network : Network) (dest : String)
    (count ttl timeout : Int) :
    (pingRun ip network dest count ttl timeout).probes = [] ∨
      ∃ destination, network.resolve dest = .ok destination ∧
        pingRun ip network dest count ttl timeout =
          pingLoop ip network destination timeout count.toNat 0 ⟨0, network.ready⟩ := by
  unfold pingRun
  split
  · exact .inl rfl
  · split
    · exact .inl rfl
    · split
      · exact .inl rfl
      · next destination resolved =>
          split
          · exact .inl rfl
          · exact .inr ⟨destination, resolved, rfl⟩

section Preparation

variable (positive : 0 < count) (hops : 0 < ttl)

include positive hops

/-- A pinger whose preparation throws sends nothing. -/
theorem pingRun_of_unprepared (unprepared : ¬ network.Prepared dest ttl) :
    ∃ what, pingRun ip network dest count ttl timeout = ⟨[], some what⟩ := by
  have guard : ¬(count ≤ 0 ∨ ttl ≤ 0) := by omega
  cases opened : network.openSocket with
  | error what => exact ⟨what, by simp only [pingRun, opened]⟩
  | ok =>
      cases resolved : network.resolve dest with
      | error what => exact ⟨what, by simp only [pingRun, opened, if_neg guard, resolved]⟩
      | ok destination =>
          cases configured : network.setHops ttl with
          | error what =>
              exact ⟨what, by simp only [pingRun, opened, if_neg guard, resolved, configured]⟩
          | ok => exact absurd ⟨opened, ⟨destination, resolved⟩, configured⟩ unprepared

variable (prepared : network.Prepared dest ttl)

include prepared

/-- A pinger whose preparations all succeed runs the loop. -/
theorem pingRun_of_prepared :
    ∃ destination, pingRun ip network dest count ttl timeout =
      pingLoop ip network destination timeout count.toNat 0 ⟨0, network.ready⟩ := by
  rcases prepared with ⟨opened, ⟨destination, resolved⟩, configured⟩
  have guard : ¬(count ≤ 0 ∨ ttl ≤ 0) := by omega
  exact ⟨destination, by simp only [pingRun, opened, if_neg guard, resolved, configured]⟩

/-- A prepared run has no failure exactly when no send throws. -/
theorem pingRun_failure_eq_none_iff :
    (pingRun ip network dest count ttl timeout).failure = none ↔
      ∀ index : Int, 0 ≤ index → index < count → ∃ delay, network.send index = .ok delay := by
  obtain ⟨destination, run⟩ := pingRun_of_prepared positive hops prepared
  rw [run, pingLoop_failure_eq_none_iff]
  apply Iff.intro
  · intro sent index lower upper
    obtain ⟨delay, isSent⟩ := sent index.toNat (by omega)
    rw [Int.zero_add, Int.toNat_of_nonneg lower] at isSent
    exact ⟨delay, isSent⟩
  · intro sent k inside
    exact sent (0 + k) (by omega) (by omega)

/-- A prepared run without a failure has one round for each count. -/
theorem pingRun_length (complete : (pingRun ip network dest count ttl timeout).failure = none) :
    (pingRun ip network dest count ttl timeout).probes.length = count.toNat := by
  obtain ⟨destination, run⟩ := pingRun_of_prepared positive hops prepared
  rw [run] at complete ⊢
  exact (pingLoop_complete destination _ _ _
    ((pingLoop_failure_eq_none_iff destination _ _ _).mp complete)).2

/-- A prepared run stops at the first send that throws. -/
theorem pingRun_failed_iff (k : Nat) (what : String) :
    (pingRun ip network dest count ttl timeout).failure = some what ∧
        (pingRun ip network dest count ttl timeout).probes.length = k ↔
      k < count ∧ (∀ j : Nat, j < k → ∃ delay, network.send j = .ok delay) ∧
        network.send k = .error what := by
  obtain ⟨destination, run⟩ := pingRun_of_prepared positive hops prepared
  rw [run, pingLoop_failed_iff]
  simp only [Int.zero_add]
  refine and_congr_left fun _ => ?_
  omega

end Preparation

section Rounds

variable {index : Nat} {probe : Probe ip}
  (here : (pingRun ip network dest count ttl timeout).probes[index]? = some probe)

include here

/-- Each recorded round of a run is a valid round to the resolved destination. -/
theorem pingRun_valid :
    probe.Valid network timeout ∧ network.resolve dest = .ok probe.destination ∧
      probe.sequenceNumber = index := by
  rcases pingRun_cases ip network dest count ttl timeout with none | ⟨destination, resolved, same⟩
  · simp [none] at here
  · rw [same] at here
    obtain ⟨valid, isDestination, _⟩ :=
      pingLoop_valid destination _ _ _ probe (List.mem_of_getElem? here)
    have number := pingLoop_sequenceNumber destination _ _ _ index probe here
    exact ⟨valid, by rw [isDestination, resolved], by rw [number, Int.zero_add]⟩

/-- A later round of a run starts behind all that an earlier round took. -/
theorem pingRun_ordered {later : Nat} {after : Probe ip} (less : index < later)
    (there : (pingRun ip network dest count ttl timeout).probes[later]? = some after) :
    probe.ended.position ≤ after.began.position := by
  rcases pingRun_cases ip network dest count ttl timeout with none | ⟨destination, _, same⟩
  · simp [none] at here
  · rw [same] at here there
    obtain ⟨inside, rfl⟩ := List.getElem?_eq_some_iff.mp here
    obtain ⟨insideLater, rfl⟩ := List.getElem?_eq_some_iff.mp there
    exact List.pairwise_iff_getElem.mp (pingLoop_ordered destination _ _ _)
      index later inside insideLater less

end Rounds

/-- A returned vector holds one entry for each recorded round. -/
theorem asyncPing_ok_iff {entries : List (IcmpCompose ip)} :
    asyncPing ip network dest count ttl timeout = .ok entries ↔
      (pingRun ip network dest count ttl timeout).failure = none ∧
        entries = (pingRun ip network dest count ttl timeout).probes.map Probe.compose := by
  unfold asyncPing
  cases failed : (pingRun ip network dest count ttl timeout).failure with
  | some what => simp [failed]
  | none => simp [failed, eq_comm]

end NetworkTools
