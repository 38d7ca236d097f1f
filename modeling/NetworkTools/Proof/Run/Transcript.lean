/-
This file proves that a run is its transcript: the rounds that the network plays, one behind the
other.
-/

import NetworkTools.Proof.Run.Loop
import NetworkTools.Specification.Message

namespace NetworkTools
open Library Specification

section Loops

variable {ip : IpType} {network : Network} {destination : Address} {timeout : Int}
  {remaining : Nat} {sequenceNumber : Int} {cursor : Cursor} {run : PingRun ip}

theorem probesOf_length (rounds : List (Round ip)) :
    (probesOf network destination timeout sequenceNumber cursor rounds).length =
      rounds.length := by
  induction rounds generalizing sequenceNumber cursor with
  | nil => rfl
  | cons round rounds ih => rw [probesOf, List.length_cons, ih, List.length_cons]

theorem endsBehind_succ_iff {failure : Option String} {played : Nat} :
    EndsBehind network (remaining + 1) sequenceNumber (played + 1) failure ↔
      EndsBehind network remaining (sequenceNumber + 1) played failure := by
  have next : sequenceNumber + ((played + 1 : Nat) : Int) = sequenceNumber + 1 + played := by
    push_cast
    omega
  cases failure with
  | none => exact Nat.add_right_cancel_iff
  | some what => rw [EndsBehind, EndsBehind, Nat.add_lt_add_iff_right, next]

theorem Transcribes.length_le {rounds : List (Round ip)}
    (transcribes : Transcribes network destination timeout remaining sequenceNumber cursor run
      rounds) : rounds.length ≤ remaining := by
  have ending := transcribes.ending
  cases failure : run.failure with
  | none =>
      rw [failure] at ending
      exact Nat.le_of_eq ending
  | some what =>
      rw [failure] at ending
      exact Nat.le_of_lt ending.1

/-- One round of the loop waits for the outcome of its exchange. -/
theorem pingLoop_of_played (round : Round ip)
    (sent : network.send sequenceNumber = .ok round.delay)
    (played : round.exchange.PlayedBy (judge ip network.identifier sequenceNumber) network.traffic
      timeout recursionLimit (round.began cursor)) :
    pingLoop ip network destination timeout (remaining + 1) sequenceNumber cursor =
      ⟨round.probe network destination timeout sequenceNumber cursor ::
          (pingLoop ip network destination timeout remaining (sequenceNumber + 1)
            (round.ended timeout cursor)).probes,
        (pingLoop ip network destination timeout remaining (sequenceNumber + 1)
          (round.ended timeout cursor)).failure⟩ := by
  have waited := pingReceivePack_eq_scan ip network.identifier network.traffic sequenceNumber
    timeout recursionLimit (round.began cursor)
  rw [TimedScan.scan_of_played played] at waited
  simp only [pingLoop, pingSendPack, sent]
  rw [Round.began] at waited
  rw [waited]
  rfl

/-- Each loop has a transcript. -/
theorem exists_transcribes (ip : IpType) (network : Network) (destination : Address)
    (timeout : Int) (remaining : Nat) (sequenceNumber : Int) (cursor : Cursor) :
    ∃ rounds, Transcribes network destination timeout remaining sequenceNumber cursor
      (pingLoop ip network destination timeout remaining sequenceNumber cursor) rounds := by
  induction remaining generalizing sequenceNumber cursor with
  | zero => exact ⟨[], trivial, rfl, rfl⟩
  | succ remaining ih =>
      cases sent : network.send sequenceNumber with
      | error what =>
          refine ⟨[], trivial, ?_, ?_⟩
          · simp only [pingLoop, pingSendPack, sent, probesOf]
          · simp only [pingLoop, pingSendPack, sent]
            exact ⟨Nat.succ_pos remaining, by
              rw [List.length_nil, Int.natCast_zero, Int.add_zero, sent]⟩
      | ok delay =>
          obtain ⟨exchange, played⟩ := TimedScan.exists_playedBy
            (judge ip network.identifier sequenceNumber) network.traffic timeout recursionLimit
            ⟨cursor.position, cursor.clock + delay⟩
          obtain ⟨rounds, rest⟩ := ih (sequenceNumber + 1)
            (Round.ended ⟨delay, exchange⟩ timeout cursor)
          rw [pingLoop_of_played ⟨delay, exchange⟩ sent played]
          refine ⟨⟨delay, exchange⟩ :: rounds, ⟨sent, played, rest.played⟩, ?_, ?_⟩
          · rw [probesOf, ← rest.probes]
          · exact endsBehind_succ_iff.mpr rest.ending

/-- Rounds that end where the loop ends are the rounds of the loop. -/
theorem pingLoop_of_transcribes {rounds : List (Round ip)}
    (transcribes : Transcribes network destination timeout remaining sequenceNumber cursor run
      rounds) :
    pingLoop ip network destination timeout remaining sequenceNumber cursor = run := by
  obtain ⟨played, probes, ending⟩ := transcribes
  obtain ⟨listed, failure⟩ := run
  simp only at probes ending
  subst probes
  induction rounds generalizing remaining sequenceNumber cursor with
  | nil =>
      cases failure with
      | none =>
          obtain rfl : 0 = remaining := ending
          rfl
      | some what =>
          obtain ⟨more, fails⟩ := ending
          obtain ⟨remaining, rfl⟩ := Nat.exists_eq_add_of_lt more
          rw [List.length_nil, Int.natCast_zero, Int.add_zero] at fails
          rw [List.length_nil, Nat.zero_add, pingLoop]
          simp only [pingSendPack, fails, probesOf]
  | cons round rounds ih =>
      obtain ⟨sent, plays, rest⟩ := played
      obtain _ | remaining := remaining
      · cases failure with
        | none => exact absurd ending (Nat.succ_ne_zero _)
        | some what => exact absurd ending.1 (Nat.not_lt_zero _)
      · rw [pingLoop_of_played round sent plays, ih rest (endsBehind_succ_iff.mp ending)]
        rfl

/-- Two transcripts of one loop agree. -/
theorem plays_unique {first second : List (Round ip)} (same : first.length = second.length)
    (isFirst : Plays network timeout sequenceNumber cursor first)
    (isSecond : Plays network timeout sequenceNumber cursor second) : first = second := by
  induction first generalizing second sequenceNumber cursor with
  | nil => exact (List.length_eq_zero_iff.mp same.symm).symm
  | cons round rounds ih =>
      obtain _ | ⟨other, others⟩ := second
      · exact absurd same (Nat.succ_ne_zero _)
      · obtain ⟨sent, plays, rest⟩ := isFirst
        obtain ⟨otherSent, otherPlays, otherRest⟩ := isSecond
        obtain ⟨delay, exchange⟩ := round
        obtain ⟨otherDelay, otherExchange⟩ := other
        obtain rfl : delay = otherDelay := Except.ok.inj (sent.symm.trans otherSent)
        obtain rfl := TimedScan.playedBy_unique plays otherPlays
        rw [ih (Nat.succ.inj same) rest otherRest]

theorem transcribes_unique {first second : List (Round ip)}
    (isFirst : Transcribes network destination timeout remaining sequenceNumber cursor run first)
    (isSecond : Transcribes network destination timeout remaining sequenceNumber cursor run
      second) : first = second := by
  have same : first.length = second.length := by
    rw [← probesOf_length first, ← isFirst.probes, isSecond.probes, probesOf_length]
  exact plays_unique same isFirst.played isSecond.played

end Loops

/-- Nothing stops a prepared run before its first round. -/
theorem pingRun_eq_pingLoop {ip : IpType} {network : Network} {dest : String}
    {count ttl timeout : Int} {destination : Address} (positive : 0 < count) (hops : 0 < ttl)
    (opened : network.openSocket = .ok ()) (resolved : network.resolve dest = .ok destination)
    (configured : network.setHops ttl = .ok ()) :
    pingRun ip network dest count ttl timeout =
      pingLoop ip network destination timeout count.toNat 0 ⟨0, network.ready⟩ := by
  have guard : ¬(count ≤ 0 ∨ ttl ≤ 0) := by omega
  simp only [pingRun, opened, if_neg guard, resolved, configured]

/-- A prepared run is its transcript: the only rounds that the network plays up to the count or up
to the first send that fails. -/
theorem pingRun_eq_iff_transcript {ip : IpType} {network : Network} {dest : String}
    {count ttl timeout : Int} {destination : Address} (positive : 0 < count) (hops : 0 < ttl)
    (opened : network.openSocket = .ok ()) (resolved : network.resolve dest = .ok destination)
    (configured : network.setHops ttl = .ok ()) (run : PingRun ip) :
    pingRun ip network dest count ttl timeout = run ↔
      ∃! rounds, Transcribes network destination timeout count.toNat 0 ⟨0, network.ready⟩ run
        rounds := by
  rw [pingRun_eq_pingLoop positive hops opened resolved configured]
  apply Iff.intro
  · rintro rfl
    obtain ⟨rounds, transcribes⟩ := exists_transcribes ip network destination timeout count.toNat 0
      ⟨0, network.ready⟩
    exact ⟨rounds, transcribes, fun others also => transcribes_unique also transcribes⟩
  · intro unique
    obtain ⟨rounds, transcribes, _⟩ := unique
    exact pingLoop_of_transcribes transcribes

section Bounds

variable {ip : IpType} {network : Network} {destination : Address} {timeout : Int}
  {remaining : Nat} {sequenceNumber : Int} {cursor : Cursor} {k : Nat} {probe : Probe ip}

/-- A loop with a round sends its first request and goes on behind the exchange. -/
theorem pingLoop_next
    (here : (pingLoop ip network destination timeout remaining sequenceNumber
      cursor).probes[k]? = some probe) :
    ∃ rest, ∃ round : Round ip, remaining = rest + 1 ∧
      network.send sequenceNumber = .ok round.delay ∧
      round.exchange.PlayedBy (judge ip network.identifier sequenceNumber) network.traffic timeout
        recursionLimit (round.began cursor) ∧
      (round.probe network destination timeout sequenceNumber cursor ::
        (pingLoop ip network destination timeout rest (sequenceNumber + 1)
          (round.ended timeout cursor)).probes)[k]? = some probe := by
  obtain ⟨rounds, transcribes⟩ := exists_transcribes ip network destination timeout remaining
    sequenceNumber cursor
  have listed := transcribes.probes
  obtain _ | ⟨round, rounds⟩ := rounds
  · rw [listed, probesOf] at here
    simp at here
  · obtain ⟨sent, played, rest⟩ := transcribes.played
    obtain _ | remaining := remaining
    · rw [pingLoop] at here
      simp at here
    · rw [pingLoop_of_played round sent played] at here
      exact ⟨remaining, round, rfl, sent, played, here⟩

/-- The clock and the position of a loop only grow. -/
theorem pingLoop_behind
    (here : (pingLoop ip network destination timeout remaining sequenceNumber
      cursor).probes[k]? = some probe) :
    cursor.clock ≤ probe.began.clock ∧ probe.began.clock ≤ probe.ended.clock := by
  induction k generalizing remaining sequenceNumber cursor with
  | zero =>
      obtain ⟨rest, round, rfl, _, _, first⟩ := pingLoop_next here
      obtain rfl := Option.some.inj first
      exact ⟨by simp only [Round.probe, Round.began]; omega, TimedScan.final_clock_ge _ _ _⟩
  | succ k ih =>
      obtain ⟨rest, round, rfl, _, _, later⟩ := pingLoop_next here
      obtain ⟨behind, grows⟩ := ih later
      have first := TimedScan.final_clock_ge round.exchange timeout (round.began cursor)
      simp only [Round.ended, Round.began] at behind first
      exact ⟨by omega, grows⟩

/-- Each round takes at most 257 datagrams and as many timeouts. -/
theorem pingLoop_bounded (notNegative : 0 ≤ timeout) {limit : Nat}
    (sends : ∀ number delay, network.send number = .ok delay → delay ≤ limit)
    (here : (pingLoop ip network destination timeout remaining sequenceNumber
      cursor).probes[k]? = some probe) :
    probe.ended.position ≤ cursor.position + (k + 1) * 257 ∧
      probe.ended.clock ≤ cursor.clock + (k + 1) * (limit + 257 * timeout) := by
  induction k generalizing remaining sequenceNumber cursor with
  | zero =>
      obtain ⟨rest, round, rfl, sent, played, first⟩ := pingLoop_next here
      obtain rfl := Option.some.inj first
      have few := played.taken_length_le
      have soon := played.final_clock_le notNegative
      have delay := sends _ _ sent
      simp only [Round.probe, Round.ended, TimedScan.final_position]
      simp only [recursionLimit] at few soon
      simp only [Round.began] at soon ⊢
      exact ⟨by omega, by push_cast at soon ⊢; omega⟩
  | succ k ih =>
      obtain ⟨rest, round, rfl, sent, played, later⟩ := pingLoop_next here
      have few := played.taken_length_le
      have soon := played.final_clock_le notNegative
      have delay := sends _ _ sent
      obtain ⟨position, clock⟩ := ih later
      have expand : ((k + 1 : Nat) + 1 : Int) * (limit + 257 * timeout) =
          (k + 1) * (limit + 257 * timeout) + (limit + 257 * timeout) := by
        push_cast
        ring
      simp only [Round.ended, TimedScan.final_position] at position clock
      simp only [recursionLimit] at few soon
      simp only [Round.began] at position clock soon
      rw [expand]
      exact ⟨by omega, by push_cast at soon clock ⊢; omega⟩

/-- Each datagram up to the end of a round lies in one of the rounds. -/
theorem pingLoop_covers {position : Nat} (behind : cursor.position ≤ position)
    (here : (pingLoop ip network destination timeout remaining sequenceNumber
      cursor).probes[k]? = some probe) (before : position < probe.ended.position) :
    ∃ j : Nat, ∃ other : Probe ip, (pingLoop ip network destination timeout remaining sequenceNumber
        cursor).probes[j]? = some other ∧
      other.began.position ≤ position ∧ position < other.ended.position := by
  induction k generalizing remaining sequenceNumber cursor with
  | zero =>
      refine ⟨0, probe, here, ?_, before⟩
      obtain ⟨rest, round, rfl, _, _, first⟩ := pingLoop_next here
      obtain rfl := Option.some.inj first
      exact behind
  | succ k ih =>
      obtain ⟨rest, round, rfl, sent, played, later⟩ := pingLoop_next here
      rw [pingLoop_of_played round sent played]
      by_cases inFirst : position < (round.ended timeout cursor).position
      · exact ⟨0, _, rfl, behind, inFirst⟩
      · obtain ⟨j, other, there, inside⟩ := ih (Nat.le_of_not_lt inFirst) later
        exact ⟨j + 1, other, there, inside⟩

/-- The rounds that end by the horizon do not depend on what arrives behind it. -/
theorem pingLoop_sameUntil {other : Traffic Datagram} {horizon : Int}
    (same : TimedScan.SameUntil horizon network.traffic other)
    (here : (pingLoop ip network destination timeout remaining sequenceNumber
      cursor).probes[k]? = some probe) (inside : probe.ended.clock ≤ horizon) :
    (pingLoop ip { network with traffic := other } destination timeout remaining sequenceNumber
      cursor).probes[k]? = some probe := by
  induction k generalizing remaining sequenceNumber cursor with
  | zero =>
      obtain ⟨rest, round, rfl, sent, played, first⟩ := pingLoop_next here
      have ends := Option.some.inj first
      have early : (round.exchange.final timeout (round.began cursor)).clock ≤ horizon := by
        rw [← ends] at inside
        exact inside
      have loops : pingLoop ip { network with traffic := other } destination timeout (rest + 1)
          sequenceNumber cursor = _ :=
        pingLoop_of_played round sent (TimedScan.playedBy_of_sameUntil same early played)
      rw [loops]
      exact first
  | succ k ih =>
      obtain ⟨rest, round, rfl, sent, played, later⟩ := pingLoop_next here
      obtain ⟨behind, grows⟩ := pingLoop_behind later
      have early : (round.exchange.final timeout (round.began cursor)).clock ≤ horizon :=
        Int.le_trans behind (Int.le_trans grows inside)
      have loops : pingLoop ip { network with traffic := other } destination timeout (rest + 1)
          sequenceNumber cursor = _ :=
        pingLoop_of_played round sent (TimedScan.playedBy_of_sameUntil same early played)
      rw [loops]
      exact ih later

end Bounds

section Takes

variable {ip : IpType} {network : Network} {destination : Address} {timeout : Int}
  {remaining : Nat} {sequenceNumber : Int} {cursor : Cursor} {rounds : List (Round ip)}

/-- The loop records the rounds that the network plays, as far as they go. -/
theorem probesOf_begins (played : Plays network timeout sequenceNumber cursor rounds)
    (within : rounds.length ≤ remaining) :
    probesOf network destination timeout sequenceNumber cursor rounds <+:
      (pingLoop ip network destination timeout remaining sequenceNumber cursor).probes := by
  induction rounds generalizing remaining sequenceNumber cursor with
  | nil => exact List.nil_prefix
  | cons round rounds ih =>
      obtain ⟨sent, plays, rest⟩ := played
      obtain ⟨remaining, rfl⟩ := Nat.exists_eq_add_of_le' (Nat.le_trans
        (Nat.succ_le_succ (Nat.zero_le rounds.length)) within)
      rw [pingLoop_of_played round sent plays, probesOf]
      exact List.cons_prefix_cons.mpr ⟨rfl, ih rest (Nat.le_of_succ_le_succ within)⟩

/-- A round takes its datagrams behind those of the rounds before it. -/
theorem probe_of_round (played : Plays network timeout sequenceNumber cursor rounds) {index : Nat}
    {round : Round ip} (here : rounds[index]? = some round) :
    ∃ probe, (probesOf network destination timeout sequenceNumber cursor rounds)[index]? =
        some probe ∧ probe.destination = destination ∧
      probe.began.position = cursor.position + takenBy (rounds.take index) ∧
      probe.ended.position = probe.began.position + round.exchange.taken.length ∧
      TimedScan.Delivers network.traffic probe.began.position round.exchange.taken := by
  induction rounds generalizing sequenceNumber cursor index with
  | nil => simp at here
  | cons first rounds ih =>
      obtain ⟨_, plays, rest⟩ := played
      cases index with
      | zero =>
          obtain rfl := Option.some.inj here
          exact ⟨_, rfl, rfl, rfl, TimedScan.final_position _ _ _, plays.delivers⟩
      | succ index =>
          obtain ⟨probe, there, same, began, ended, delivers⟩ := ih rest here
          refine ⟨probe, there, same, ?_, ended, delivers⟩
          rw [began, Round.ended, TimedScan.final_position, List.take_succ_cons, takenBy, takenBy,
            List.map_cons, List.sum_cons, ← Nat.add_assoc]
          rfl

end Takes

section Runs

variable {ip : IpType} {network : Network} {dest : String} {count ttl timeout : Int} {k : Nat}
  {probe : Probe ip}

/-- A run with a round is prepared. -/
theorem pingRun_of_probe
    (here : (pingRun ip network dest count ttl timeout).probes[k]? = some probe) :
    0 < count ∧ 0 < ttl ∧ network.openSocket = .ok () ∧
      network.resolve dest = .ok probe.destination ∧ network.setHops ttl = .ok () := by
  have resolved := (pingRun_valid here).2.1
  cases opened : network.openSocket with
  | error what => simp [pingRun, opened] at here
  | ok =>
      by_cases guard : count ≤ 0 ∨ ttl ≤ 0
      · simp [pingRun, opened, if_pos guard] at here
      · cases configured : network.setHops ttl with
        | error what => simp [pingRun, opened, guard, resolved, configured] at here
        | ok => exact ⟨by omega, by omega, rfl, resolved, rfl⟩

/-- The wait behind a request takes what stands between the two ends of its round. -/
theorem pingTakes_iff {destination : Address} {index position : Nat} {arrival : Arrival Datagram} :
    PingTakes ip network dest count ttl timeout destination index position arrival ↔
      ∃ probe, (pingRun ip network dest count ttl timeout).probes[index]? = some probe ∧
        probe.destination = destination ∧ probe.began.position ≤ position ∧
        position < probe.ended.position ∧ network.traffic position = some arrival := by
  apply Iff.intro
  · rintro ⟨rounds, plays, round, offset, here, taken, rfl⟩
    have inside := (List.getElem?_eq_some_iff.mp here).1
    have within := plays.within
    obtain ⟨probe, there, same, began, ended, delivers⟩ := probe_of_round plays.played here
    refine ⟨probe, ?_, same, ?_, ?_, ?_⟩
    · rw [pingRun_eq_pingLoop (by omega) plays.hops plays.opened plays.resolved plays.configured]
      obtain ⟨later, recorded⟩ := @probesOf_begins ip network destination timeout count.toNat 0
        ⟨0, network.ready⟩ rounds plays.played (by omega)
      rw [← recorded, List.getElem?_append_left (List.getElem?_eq_some_iff.mp there).1]
      exact there
    · rw [began, Nat.zero_add]
      exact Nat.le_add_right _ _
    · have below := (List.getElem?_eq_some_iff.mp taken).1
      rw [ended, began, Nat.zero_add]
      omega
    · have stands := delivers offset arrival taken
      rw [began, Nat.zero_add] at stands
      exact stands
  · rintro ⟨probe, here, rfl, behind, before, present⟩
    obtain ⟨positive, hops, opened, resolved, configured⟩ := pingRun_of_probe here
    rw [pingRun_eq_pingLoop positive hops opened resolved configured] at here
    obtain ⟨rounds, transcribes⟩ := exists_transcribes ip network probe.destination timeout
      count.toNat 0 ⟨0, network.ready⟩
    rw [transcribes.probes] at here
    have inside := (List.getElem?_eq_some_iff.mp here).1
    rw [probesOf_length] at inside
    have isRound := List.getElem?_eq_getElem inside
    obtain ⟨other, there, _, began, ended, delivers⟩ := probe_of_round transcribes.played isRound
    obtain rfl := Option.some.inj (here.symm.trans there)
    rw [Nat.zero_add] at began
    obtain ⟨offset, rfl⟩ := Nat.exists_eq_add_of_le behind
    have short : offset < (rounds[index]).exchange.taken.length := by omega
    have taken := List.getElem?_eq_getElem short
    have stands := delivers offset _ taken
    obtain rfl := Option.some.inj (stands.symm.trans present)
    have length := transcribes.length_le
    refine ⟨rounds, ⟨hops, opened, resolved, configured, by omega, transcribes.played⟩,
      rounds[index], offset, isRound, taken, ?_⟩
    rw [began]

/-- Each datagram that a run takes lies in exactly one of its rounds. -/
theorem pingRun_partition
    (here : (pingRun ip network dest count ttl timeout).probes[k]? = some probe) {position : Nat}
    (before : position < probe.ended.position) :
    ∃! j : Nat, ∃ other : Probe ip,
      (pingRun ip network dest count ttl timeout).probes[j]? = some other ∧
      other.began.position ≤ position ∧ position < other.ended.position := by
  have covers : ∃ j : Nat, ∃ other : Probe ip,
      (pingRun ip network dest count ttl timeout).probes[j]? = some other ∧
        other.began.position ≤ position ∧ position < other.ended.position := by
    rcases pingRun_cases ip network dest count ttl timeout with none | ⟨destination, _, loops⟩
    · simp [none] at here
    · rw [loops] at here ⊢
      exact pingLoop_covers (Nat.zero_le position) here before
  obtain ⟨j, other, there, began, ended⟩ := covers
  refine ⟨j, ⟨other, there, began, ended⟩, ?_⟩
  rintro i ⟨another, isThere, alsoBegan, alsoEnded⟩
  rcases Nat.lt_trichotomy i j with less | same | more
  · have ordered := pingRun_ordered isThere less there
    omega
  · exact same
  · have ordered := pingRun_ordered there more isThere
    omega

theorem takes_of_pingTakes {destination : Address} {index position : Nat}
    {arrival : Arrival Datagram}
    (taken : PingTakes ip network dest count ttl timeout destination index position arrival) :
    ∃ probe, (pingRun ip network dest count ttl timeout).probes[index]? = some probe ∧
      probe.destination = destination ∧ probe.Takes network.traffic arrival := by
  obtain ⟨probe, here, same, behind, before, present⟩ := pingTakes_iff.mp taken
  exact ⟨probe, here, same, position, behind, before, present⟩

theorem pingTakes_of_takes {index : Nat} {arrival : Arrival Datagram}
    (here : (pingRun ip network dest count ttl timeout).probes[index]? = some probe)
    (takes : probe.Takes network.traffic arrival) :
    ∃ position, PingTakes ip network dest count ttl timeout probe.destination index position
      arrival := by
  obtain ⟨position, behind, before, present⟩ := takes
  exact ⟨position, pingTakes_iff.mpr ⟨probe, here, rfl, behind, before, present⟩⟩

/-- A run of a pinger is bounded in the datagrams and in the time that it takes, whatever
arrives. -/
theorem pingRun_bounded (notNegative : 0 ≤ timeout) {limit : Nat}
    (sends : ∀ number delay, network.send number = .ok delay → delay ≤ limit)
    (here : (pingRun ip network dest count ttl timeout).probes[k]? = some probe) :
    probe.ended.position ≤ (k + 1) * 257 ∧
      probe.ended.clock ≤ network.ready + (k + 1) * (limit + 257 * timeout) := by
  rcases pingRun_cases ip network dest count ttl timeout with none | ⟨destination, _, loops⟩
  · simp [none] at here
  · rw [loops] at here
    obtain ⟨position, clock⟩ := pingLoop_bounded notNegative sends here
    rw [Nat.zero_add] at position
    exact ⟨position, clock⟩

/-- The preparation of a run does not look at the traffic. -/
theorem pingRun_of_traffic (ip : IpType) (network : Network) (dest : String)
    (count ttl timeout : Int) :
    (∀ traffic, (pingRun ip { network with traffic := traffic } dest count ttl timeout).probes =
        []) ∨
      ∃ destination, ∀ traffic,
        pingRun ip { network with traffic := traffic } dest count ttl timeout =
          pingLoop ip { network with traffic := traffic } destination timeout count.toNat 0
            ⟨0, network.ready⟩ := by
  cases opened : network.openSocket with
  | error what => exact .inl fun _ => by simp only [pingRun]
  | ok =>
      by_cases guard : count ≤ 0 ∨ ttl ≤ 0
      · exact .inl fun _ => by simp only [pingRun, if_pos guard]
      · cases resolved : network.resolve dest with
        | error what => exact .inl fun _ => by simp only [pingRun, if_neg guard, resolved]
        | ok destination =>
            cases configured : network.setHops ttl with
            | error what =>
                exact .inl fun _ => by
                  simp only [pingRun, if_neg guard, resolved, configured]
            | ok =>
                exact .inr ⟨destination, fun _ => by
                  simp only [pingRun, if_neg guard, resolved, configured]⟩

/-- What a run has recorded by some time does not depend on what arrives after this time. -/
theorem pingRun_causal {other : Traffic Datagram} {horizon : Int}
    (same : TimedScan.SameUntil horizon network.traffic other)
    (here : (pingRun ip network dest count ttl timeout).probes[k]? = some probe)
    (inside : probe.ended.clock ≤ horizon) :
    (pingRun ip { network with traffic := other } dest count ttl timeout).probes[k]? =
      some probe := by
  rcases pingRun_of_traffic ip network dest count ttl timeout with none | ⟨destination, loops⟩
  · rw [none network.traffic] at here
    simp at here
  · rw [loops network.traffic] at here
    rw [loops other]
    exact pingLoop_sameUntil same here inside

end Runs

/-- The only reply of this network comes after five nanoseconds. -/
def answeredNetwork : Network := deliveringNetwork 7 [⟨5, replyDatagram hostAddress 7 0⟩]

/-- A second reply comes later. -/
def twiceAnsweredTraffic : Traffic Datagram :=
  TimedScan.ofList [⟨5, replyDatagram hostAddress 7 0⟩, ⟨9, replyDatagram hostAddress 7 1⟩]

theorem answeredNetwork_probe :
    ∃ probe, (pingRun .useIpv4 answeredNetwork "host" 2 64 1000).probes[0]? = some probe ∧
      probe.ended = ⟨1, 5⟩ := by
  have ended : (pingRun .useIpv4 answeredNetwork "host" 2 64 1000).probes[0]?.map Probe.ended =
      some ⟨1, 5⟩ := by
    decide +kernel
  exact Option.map_eq_some_iff.mp ended

theorem pingRun_transcript_answered :
    ∃! rounds, Transcribes answeredNetwork (.v4 hostAddress) 1000 2 0 ⟨0, 0⟩
      (pingRun .useIpv4 answeredNetwork "host" 2 64 1000) rounds := by
  have positive : (0 : Int) < 2 := by decide
  have hops : (0 : Int) < 64 := by decide
  exact (pingRun_eq_iff_transcript positive hops rfl rfl rfl _).mp rfl

theorem pingRun_partition_answered :
    ∃! j : Nat, ∃ other : Probe .useIpv4,
      (pingRun .useIpv4 answeredNetwork "host" 2 64 1000).probes[j]? = some other ∧
        other.began.position ≤ 0 ∧ 0 < other.ended.position := by
  obtain ⟨probe, here, ended⟩ := answeredNetwork_probe
  exact pingRun_partition here (by rw [ended]; decide)

theorem pingRun_bounded_answered :
    ∃ probe, (pingRun .useIpv4 answeredNetwork "host" 2 64 1000).probes[0]? = some probe ∧
      probe.ended.position ≤ (0 + 1) * 257 ∧
        probe.ended.clock ≤ answeredNetwork.ready + ((0 : Nat) + 1) * ((0 : Nat) + 257 * 1000) := by
  obtain ⟨probe, here, _⟩ := answeredNetwork_probe
  have sends : ∀ number delay, answeredNetwork.send number = .ok delay → delay ≤ 0 := by
    intro number delay sent
    exact Nat.le_of_eq (Except.ok.inj sent).symm
  exact ⟨probe, here, pingRun_bounded (by decide) sends here⟩

/-- The second reply leaves the first round alone. -/
theorem pingRun_causal_answered :
    ∃ probe, (pingRun .useIpv4 answeredNetwork "host" 2 64 1000).probes[0]? = some probe ∧
      (pingRun .useIpv4 { answeredNetwork with traffic := twiceAnsweredTraffic } "host" 2 64
        1000).probes[0]? = some probe := by
  obtain ⟨probe, here, ended⟩ := answeredNetwork_probe
  refine ⟨probe, here, pingRun_causal ?_ here (Int.le_of_eq (congrArg Cursor.clock ended))⟩
  intro position arrival early
  match position with
  | 0 => exact Iff.rfl
  | 1 =>
      apply iff_of_false
      · intro impossible
        cases impossible
      · intro late
        obtain rfl := Option.some.inj late
        exact absurd early (by decide)
  | _ + 2 => exact Iff.rfl

end NetworkTools
