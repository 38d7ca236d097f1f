/-
This file proves which probe of a run gets the credit for a received datagram.
-/

import NetworkTools.Library.Crediting
import NetworkTools.Proof.Receive.RoundTrip
import NetworkTools.Proof.Run.Transcript
import NetworkTools.Specification.Message

namespace NetworkTools
open Library Specification

/-- A run credits each probe with the datagram that answered it. -/
def pingCrediting (ip : IpType) (network : Network) (dest : String) (count ttl timeout : Int) :
    Crediting :=
  Crediting.ofStretches
    (fun index => (pingRun ip network dest count ttl timeout).probes[index]?.map fun probe =>
      (probe.began.position, probe.ended.position))
    (fun index => (pingRun ip network dest count ttl timeout).probes[index]?.bind Probe.origin)
    (by
      intro index position isOrigin
      obtain ⟨probe, here, credited⟩ := Option.bind_eq_some_iff.mp isOrigin
      obtain ⟨compose, answer, rfl⟩ := Option.map_eq_some_iff.mp credited
      obtain ⟨taken, _⟩ := (pingRun_valid here).1.answered answer
      exact ⟨_, _, by rw [here]; rfl, by omega, by omega⟩)
    (by
      intro first second began ended later stop less isFirst isSecond
      obtain ⟨probe, here, stretch⟩ := Option.map_eq_some_iff.mp isFirst
      obtain ⟨after, there, laterStretch⟩ := Option.map_eq_some_iff.mp isSecond
      have apart := pingRun_ordered here less there
      rw [← (Prod.mk.inj stretch).2, ← (Prod.mk.inj laterStretch).1]
      exact apart)

variable {ip : IpType} {network : Network} {dest : String} {count ttl timeout : Int}
  {entries : List (IcmpCompose ip)}

/-- The default entry reads as no time-exceeded message. -/
theorem default_not_timeExceeded (ip : IpType) :
    ({} : IcmpCompose ip).icmpHd.type ≠ ip.timeExceeded := by
  cases ip <;> decide

theorem pingCrediting_origin {index : Nat} {probe : Probe ip}
    (here : (pingRun ip network dest count ttl timeout).probes[index]? = some probe) :
    (pingCrediting ip network dest count ttl timeout).origin index = probe.origin := by
  change (pingRun ip network dest count ttl timeout).probes[index]?.bind Probe.origin = _
  rw [here]
  rfl

/-- A returned entry is the entry of the round with the same index. -/
theorem asyncPing_round (returned : asyncPing ip network dest count ttl timeout = .ok entries)
    {index : Nat} {entry : IcmpCompose ip} (here : entries[index]? = some entry) :
    ∃ probe, (pingRun ip network dest count ttl timeout).probes[index]? = some probe ∧
      entry = probe.compose := by
  rw [(asyncPing_ok_iff.mp returned).2, List.getElem?_map, Option.map_eq_some_iff] at here
  rcases here with ⟨probe, present, same⟩
  exact ⟨probe, present, same.symm⟩

theorem accepted_type (ip : IpType) (datagram : Datagram) (type : UInt8) :
    (accepted ip datagram).icmpHd.type = type ↔ ReadsAsType ip type datagram.bytes := by
  rw [ReadsAsType, ← readHeaders_type ip datagram.bytes datagram.sender]
  rfl

theorem withoutElapsed_icmpHd {compose : IcmpCompose ip} {datagram : Datagram}
    (same : compose.withoutElapsed = accepted ip datagram) :
    compose.icmpHd = (accepted ip datagram).icmpHd := by
  rw [← same]
  rfl

theorem withoutElapsed_length {compose : IcmpCompose ip} {datagram : Datagram}
    (same : compose.withoutElapsed = accepted ip datagram) :
    compose.length = datagram.bytes.length := by
  change compose.withoutElapsed.length = _
  rw [same]
  rfl

/-- A run credits the source of each round. -/
theorem pingCrediting_credits_iff {index : Nat} {probe : Probe ip}
    (present : (pingRun ip network dest count ttl timeout).probes[index]? = some probe)
    (arrival : Arrival Datagram) :
    (pingCrediting ip network dest count ttl timeout).Credits network.traffic index arrival ↔
      probe.source network.traffic = some arrival := by
  rw [Crediting.Credits, pingCrediting_origin present, Probe.source, Option.bind_eq_some_iff]

section Rounds

variable {probe : Probe ip} (valid : probe.Valid network timeout)

include valid

/-- The source of an entry is a taken datagram that reads as an answer. -/
theorem Probe.Valid.takes_of_source {arrival : Arrival Datagram}
    (isSource : probe.source network.traffic = some arrival) :
    probe.Takes network.traffic arrival ∧
      probe.compose.withoutElapsed = accepted ip arrival.message ∧
      ReadsAsAnswer ip network.identifier probe.sequenceNumber arrival.message.bytes := by
  obtain ⟨position, isOrigin, present⟩ := Option.bind_eq_some_iff.mp isSource
  obtain ⟨compose, answer, rfl⟩ := Option.map_eq_some_iff.mp isOrigin
  obtain ⟨taken, last, there, same, kind⟩ := valid.answered answer
  obtain rfl := Option.some.inj (present.symm.trans there)
  refine ⟨⟨_, by omega, by omega, present⟩, ?_, kind⟩
  rw [(Probe.of_answer answer).1]
  exact same

/-- A taken datagram that reads as an answer is the source of the entry. -/
theorem Probe.Valid.source_of_takes {arrival : Arrival Datagram}
    (takes : probe.Takes network.traffic arrival)
    (kind : ReadsAsAnswer ip network.identifier probe.sequenceNumber arrival.message.bytes) :
    probe.source network.traffic = some arrival ∧
      probe.compose.withoutElapsed = accepted ip arrival.message := by
  have verdict := (judge_eq_accept_iff (accepted ip arrival.message)).mpr ⟨rfl, kind⟩
  rcases valid.taken takes with skip | ⟨result, settled, there, decided⟩
  · simp [verdict] at skip
  · obtain rfl : some (accepted ip arrival.message) = result := by simpa [verdict] using settled
    obtain ⟨compose, answer, filled⟩ := Option.map_eq_some_iff.mp decided
    rw [accepted_withoutElapsed] at filled
    obtain ⟨isCompose, isOrigin⟩ := Probe.of_answer answer
    apply And.intro
    · rw [Probe.source, isOrigin]
      exact there
    · rw [isCompose]
      exact filled

/-- A round has a source exactly when it has an answer. -/
theorem Probe.Valid.source_isSome_iff :
    (probe.source network.traffic).isSome ↔ probe.answer.isSome := by
  cases answer : probe.answer with
  | none => simp [Probe.source, (Probe.of_timeout answer).2]
  | some compose =>
      obtain ⟨_, arrival, there, _⟩ := valid.answered answer
      rw [Probe.source, (Probe.of_answer answer).2, Option.bind_some, there]
      rfl

/-- A round without a source keeps the default entry. -/
theorem Probe.Valid.compose_of_sourceless (sourceless : probe.source network.traffic = none) :
    probe.compose = {} := by
  cases answer : probe.answer with
  | none => exact (Probe.of_timeout answer).1
  | some compose =>
      have sourced := valid.source_isSome_iff.mpr (by rw [answer]; rfl)
      rw [sourceless] at sourced
      exact absurd sourced (by simp)

/-- A probe has an answer exactly when its wait takes a datagram that reads as one. -/
theorem Probe.Valid.answer_isSome_iff :
    probe.answer.isSome ↔ ∃ arrival, probe.Takes network.traffic arrival ∧
      ReadsAsAnswer ip network.identifier probe.sequenceNumber arrival.message.bytes := by
  rw [← valid.source_isSome_iff, Option.isSome_iff_exists]
  apply Iff.intro
  · intro sourced
    rcases sourced with ⟨arrival, isSource⟩
    obtain ⟨takes, _, kind⟩ := valid.takes_of_source isSource
    exact ⟨arrival, takes, kind⟩
  · intro taken
    rcases taken with ⟨arrival, takes, kind⟩
    exact ⟨arrival, (valid.source_of_takes takes kind).1⟩

end Rounds

/-- Without a failing send each entry is a default entry or one datagram of its own probe. -/
theorem asyncPing_credits (ip : IpType) (network : Network) (dest : String)
    (count ttl timeout : Int) (hops : 0 < ttl) (prepared : network.Prepared dest ttl)
    (sent : ∀ index : Int, 0 ≤ index → index < count → ∃ delay, network.send index = .ok delay) :
    ∃ entries, asyncPing ip network dest count ttl timeout = .ok entries ∧
      entries.length = count.toNat ∧
      (∀ (index : Nat) entry, entries[index]? = some entry →
        (pingCrediting ip network dest count ttl timeout).origin index = none ∧ entry = {} ∨
          ∃ arrival, (pingCrediting ip network dest count ttl timeout).Credits network.traffic
              index arrival ∧
            entry.withoutElapsed = accepted ip arrival.message ∧
            (entry.icmpHd.type = ip.echoReply →
              entry.icmpHd.identifier = network.identifier ∧
              entry.icmpHd.sequenceNumber.toNat = index) ∧
            ∀ other : Int, IsEchoReply ip network.identifier other arrival.message.bytes →
              other = index) ∧
      ∀ first second p q, first < second →
        (pingCrediting ip network dest count ttl timeout).origin first = some p →
        (pingCrediting ip network dest count ttl timeout).origin second = some q → p < q := by
  have run : (pingRun ip network dest count ttl timeout).failure = none ∧
      (pingRun ip network dest count ttl timeout).probes.length = count.toNat := by
    by_cases positive : 0 < count
    · have complete : (pingRun ip network dest count ttl timeout).failure = none :=
        (pingRun_failure_eq_none_iff positive hops prepared).mpr sent
      exact ⟨complete, pingRun_length positive hops prepared complete⟩
    · have guard : count ≤ 0 ∨ ttl ≤ 0 := .inl (by omega)
      simp only [pingRun, prepared.1, if_pos guard, List.length_nil, true_and]
      omega
  have returned := asyncPing_ok_iff.mpr ⟨run.1, rfl⟩
  refine ⟨_, returned, by rw [List.length_map]; exact run.2, ?_,
    (pingCrediting ip network dest count ttl timeout).increasing⟩
  intro index entry here
  obtain ⟨probe, present, rfl⟩ := asyncPing_round returned here
  obtain ⟨valid, _, number⟩ := pingRun_valid present
  cases answer : probe.answer with
  | none =>
      obtain ⟨isDefault, isOrigin⟩ := Probe.of_timeout answer
      exact .inl ⟨by rw [pingCrediting_origin present, isOrigin], isDefault⟩
  | some compose =>
      have sourced : (probe.source network.traffic).isSome :=
        valid.source_isSome_iff.mpr (by rw [answer]; rfl)
      obtain ⟨arrival, isSource⟩ := Option.isSome_iff_exists.mp sourced
      obtain ⟨_, same, kind⟩ := valid.takes_of_source isSource
      refine .inr ⟨arrival, (pingCrediting_credits_iff present arrival).mpr isSource, same,
        ?_, ?_⟩
      · intro isReply
        rw [withoutElapsed_icmpHd same] at isReply ⊢
        have reads := (accepted_type ip arrival.message ip.echoReply).mp isReply
        rcases kind with exceeded | ⟨_, own⟩
        · exact absurd exceeded (not_timeExceeded_of_echoReply reads)
        · obtain ⟨sameIdentifier, sameSequence⟩ := (readsAsProbe_iff ip network.identifier
            probe.sequenceNumber arrival.message.bytes arrival.message.sender).mp own
          refine ⟨sameIdentifier, ?_⟩
          rw [number] at sameSequence
          exact Int.ofNat.inj sameSequence
      · intro other replied
        rcases replied with ⟨_, isReply, isOther⟩
        rcases kind with exceeded | ⟨_, own⟩
        · exact absurd exceeded (not_timeExceeded_of_echoReply isReply)
        · rw [← number, ← own.2, isOther.2]

/-- The reply to the second probe comes during the first wait and is lost to both. -/
theorem asyncPing_credits_reordered :
    ∃ entries, asyncPing .useIpv4 (deliveringNetwork 7
        [⟨1, replyDatagram hostAddress 7 1⟩, ⟨2, replyDatagram hostAddress 7 0⟩]) "host" 2 64 1000 =
          .ok entries ∧ entries.length = 2 := by
  obtain ⟨entries, returned, length, _⟩ := asyncPing_credits .useIpv4 (deliveringNetwork 7
    [⟨1, replyDatagram hostAddress 7 1⟩, ⟨2, replyDatagram hostAddress 7 0⟩]) "host" 2 64 1000
    (by decide) ⟨rfl, ⟨.v4 hostAddress, rfl⟩, rfl⟩ fun _ _ _ => ⟨0, rfl⟩
  exact ⟨entries, returned, length⟩

theorem wordAt_lt (bytes : List UInt8) (index : Nat) : wordAt bytes index < 65536 := by
  have high := (byteAt bytes index).toNat_lt
  have low := (byteAt bytes (index + 1)).toNat_lt
  rw [wordAt]
  omega

/-- A message that quotes this identity quotes the request of the round. -/
theorem repeatsRequest_of_quotes {probe : Probe ip} (valid : probe.Valid network timeout)
    {bytes : List UInt8}
    (quotes : Quotes ip network.identifier probe.destination probe.sequenceNumber bytes) :
    RepeatsRequest ip probe.request bytes := by
  obtain ⟨_, _, _, type, identifier, number⟩ := quotes
  obtain ⟨sameType, sameIdentifier, sameNumber⟩ :=
    requestBytes_words ip network.identifier probe.sequenceNumber
  have below := wordAt_lt (quotedMessage ip (quotedPacket ip bytes)) 6
  rw [valid.request]
  refine ⟨type.trans sameType.symm, identifier.trans sameIdentifier.symm, ?_⟩
  rw [sameNumber]
  omega

/-- Each time-exceeded entry quotes its own probe exactly when no wait takes a foreign one. -/
theorem timeExceeded_credited_iff
    (returned : asyncPing ip network dest count ttl timeout = .ok entries) :
    (∀ (index : Nat) entry probe, entries[index]? = some entry →
        (pingRun ip network dest count ttl timeout).probes[index]? = some probe →
        entry.icmpHd.type = ip.timeExceeded →
          ∃ arrival, (pingCrediting ip network dest count ttl timeout).Credits network.traffic
              index arrival ∧
            entry.withoutElapsed = accepted ip arrival.message ∧
            Quotes ip network.identifier probe.destination index arrival.message.bytes ∧
            RepeatsRequest ip probe.request arrival.message.bytes) ↔
      ∀ destination index position arrival,
        PingTakes ip network dest count ttl timeout destination index position arrival →
        ReadsAsType ip ip.timeExceeded arrival.message.bytes →
          Quotes ip network.identifier destination index arrival.message.bytes := by
  apply Iff.intro
  · intro holds destination index position arrival taken exceeded
    obtain ⟨probe, present, rfl, takes⟩ := takes_of_pingTakes taken
    obtain ⟨valid, _, _⟩ := pingRun_valid present
    obtain ⟨isSource, filled⟩ := valid.source_of_takes takes (.inl exceeded)
    obtain ⟨other, credits, _, quotes, _⟩ := holds index probe.compose probe
      (by rw [(asyncPing_ok_iff.mp returned).2, List.getElem?_map, present]; rfl) present
      (by rw [withoutElapsed_icmpHd filled]; exact (accepted_type ip _ _).mpr exceeded)
    rw [pingCrediting_credits_iff present, isSource, Option.some.injEq] at credits
    rwa [credits]
  · intro holds index entry probe here present exceeded
    obtain ⟨same, again, rfl⟩ := asyncPing_round returned here
    obtain rfl := Option.some.inj (again.symm.trans present)
    obtain ⟨valid, _, number⟩ := pingRun_valid present
    cases isSource : same.source network.traffic with
    | none =>
        rw [valid.compose_of_sourceless isSource] at exceeded
        exact absurd exceeded (default_not_timeExceeded ip)
    | some arrival =>
        obtain ⟨takes, filled, _⟩ := valid.takes_of_source isSource
        rw [withoutElapsed_icmpHd filled] at exceeded
        obtain ⟨position, taken⟩ := pingTakes_of_takes present takes
        have quotes := holds _ index position arrival taken
          ((accepted_type ip _ _).mp exceeded)
        refine ⟨arrival, (pingCrediting_credits_iff present arrival).mpr isSource, filled, quotes,
          ?_⟩
        rw [← number] at quotes
        exact repeatsRequest_of_quotes valid quotes

/-- A router drops the probe of this run. -/
def ownExceeded : Network := deliveringNetwork 7 [⟨1, exceededDatagram routerAddress 7 0⟩]

theorem timeExceeded_credited_own :
    (∀ (index : Nat) entry probe,
        ((pingRun .useIpv4 ownExceeded "host" 1 1 1000).probes.map Probe.compose)[index]? =
          some entry →
        (pingRun .useIpv4 ownExceeded "host" 1 1 1000).probes[index]? = some probe →
        entry.icmpHd.type = IpType.useIpv4.timeExceeded →
          ∃ arrival, (pingCrediting .useIpv4 ownExceeded "host" 1 1 1000).Credits
              ownExceeded.traffic index arrival ∧
            entry.withoutElapsed = accepted .useIpv4 arrival.message ∧
            Quotes .useIpv4 7 probe.destination index arrival.message.bytes ∧
            RepeatsRequest .useIpv4 probe.request arrival.message.bytes) ↔
      ∀ destination index position arrival,
        PingTakes .useIpv4 ownExceeded "host" 1 1 1000 destination index position arrival →
        ReadsAsType .useIpv4 IpType.useIpv4.timeExceeded arrival.message.bytes →
          Quotes .useIpv4 7 destination index arrival.message.bytes :=
  timeExceeded_credited_iff (asyncPing_ok_iff.mpr ⟨by decide +kernel, rfl⟩)

/-- A router drops the probe of another process, and this run takes the message for its own. -/
theorem timeExceeded_credited_foreign :
    (asyncPing .useIpv4 (deliveringNetwork 7 [⟨1, exceededDatagram routerAddress 8 0⟩])
        "host" 1 1 1000).map (List.map IcmpCompose.withoutElapsed) =
        .ok [accepted .useIpv4 (exceededDatagram routerAddress 8 0)] ∧
      (accepted .useIpv4 (exceededDatagram routerAddress 8 0)).icmpHd.type =
        IpType.useIpv4.timeExceeded ∧
      Quotes .useIpv4 8 (.v4 hostAddress) 0 (exceededDatagram routerAddress 8 0).bytes ∧
      ¬ Quotes .useIpv4 7 (.v4 hostAddress) 0 (exceededDatagram routerAddress 8 0).bytes := by
  decide +kernel

end NetworkTools
