/-
This file proves the shape of a trace: one entry for each probed hop limit.
-/

import NetworkTools.Library.BreakLoop
import NetworkTools.Proof.Run.Report
import NetworkTools.Proof.Run.Trace
import NetworkTools.Specification.Trace

namespace NetworkTools
open Library Specification

variable {ip : IpType} {route : Route} {dest : String} {timeout : Int} {destination : Address}
  {canPing : Bool}

section Addresses

/-- The kept address is the first specified source, or the unspecified start. -/
theorem hopAddress_eq_find (composes : List (IcmpCompose ip)) :
    hopAddress ip composes = (firstSpecified
      (composes.map fun compose => ip.sourceAddress compose.ipHd)).getD Address.unspecified := by
  have kept (start : Address) (specified : start.isUnspecified = false)
      (rest : List (IcmpCompose ip)) : rest.foldl (fun address compose =>
        if address.isUnspecified && !(ip.sourceAddress compose.ipHd).isUnspecified then
          ip.sourceAddress compose.ipHd
        else address) start = start := by
    induction rest with
    | nil => rfl
    | cons compose rest ih =>
        rw [List.foldl_cons, specified, Bool.false_and, if_neg (by decide), ih]
  unfold hopAddress firstSpecified
  have start : Address.unspecified.isUnspecified = true := by decide
  induction composes with
  | nil => rfl
  | cons compose rest ih =>
      rw [List.foldl_cons, List.map_cons, start, Bool.true_and]
      cases specified : (ip.sourceAddress compose.ipHd).isUnspecified with
      | true =>
          rw [List.find?_cons_of_neg (by simp [specified]), if_neg (by decide)]
          exact ih
      | false =>
          rw [List.find?_cons_of_pos (by simp [specified]), if_pos (by decide), kept _ specified]
          rfl

/-- The sources of the entries have the same first specified address as the answers. -/
theorem firstSpecified_composes {network : Network} {limit : Int} {probes : List (Probe ip)}
    (valid : ∀ probe ∈ probes, probe.Valid network limit) :
    firstSpecified ((probes.map Probe.compose).map fun compose => ip.sourceAddress compose.ipHd) =
      firstSpecified (answerSources ip network probes) := by
  unfold firstSpecified answerSources
  induction probes with
  | nil => rfl
  | cons probe rest ih =>
      have first := valid probe List.mem_cons_self
      have others := ih fun other member => valid other (List.mem_cons_of_mem _ member)
      rw [List.map_cons, List.map_cons]
      cases isSource : probe.source network.traffic with
      | none =>
          rw [List.find?_cons_of_neg, others, List.filterMap_cons_none (by rw [isSource]; rfl)]
          rw [first.compose_of_sourceless isSource, default_isUnspecified]
          decide
      | some arrival =>
          have source : ip.sourceAddress probe.compose.ipHd =
              datagramSource ip arrival.message := by
            rw [← accepted_sourceAddress, ← (first.takes_of_source isSource).2.1]
            rfl
          rw [List.filterMap_cons_some (by rw [isSource]; rfl), source]
          rw [List.find?_cons, List.find?_cons, others]

/-- The recorded address of a hop is the first specified source of its answers. -/
theorem shown_eq {ttl : Nat} {composes : List (IcmpCompose ip)}
    (returned : asyncPing ip (route.hop ttl) dest 3 ttl (ofMilliseconds timeout) = .ok composes) :
    hopAddress ip composes = (firstSpecified (answerSources ip (route.hop ttl)
        (hopRun ip route dest timeout ttl).probes)).getD Address.unspecified ∧
      (if (hopAddress ip composes).isUnspecified then none else some (hopAddress ip composes)) =
        firstSpecified (answerSources ip (route.hop ttl)
          (hopRun ip route dest timeout ttl).probes) := by
  have same : hopAddress ip composes = (firstSpecified (answerSources ip (route.hop ttl)
      (hopRun ip route dest timeout ttl).probes)).getD Address.unspecified := by
    rw [hopAddress_eq_find, (asyncPing_ok_iff.mp returned).2, firstSpecified_composes]
    · rfl
    · intro probe member
      obtain ⟨index, here⟩ := List.mem_iff_getElem?.mp member
      exact (pingRun_valid here).1
  refine ⟨same, ?_⟩
  rw [same]
  cases found : firstSpecified (answerSources ip (route.hop ttl)
      (hopRun ip route dest timeout ttl).probes) with
  | none => exact if_pos (by decide)
  | some address =>
      have specified := List.find?_some found
      simp only [Bool.not_eq_true'] at specified
      rw [Option.getD_some, if_neg (by rw [specified]; decide)]

end Addresses

section Delays

/-- No answer comes before its wait. -/
theorem Probe.Valid.elapsed_nonneg {network : Network} {limit : Int} {probe : Probe ip}
    (valid : probe.Valid network limit) : 0 ≤ probe.compose.elapsed := by
  cases answer : probe.answer with
  | none => rw [(Probe.of_timeout answer).1]
  | some compose =>
      have waited := valid.waited
      rw [answer] at waited
      obtain ⟨skipped, arrival, _, _, _, _, final, isCompose⟩ := pingReceivePack_some waited
      have clock : probe.ended.clock =
          max ((TimedScan.step network.traffic)^[skipped] probe.began).clock arrival.time := by
        rw [final]
        rfl
      rw [(Probe.of_answer answer).1, isCompose]
      change 0 ≤ probe.ended.clock - _
      omega

/-- A probe whose datagrams have their headers is answered exactly when it keeps an answer. -/
theorem Probe.Valid.answered_iff {network : Network} {limit : Int} {probe : Probe ip}
    (valid : probe.Valid network limit)
    (headed : ip = .useIpv4 → ∀ position arrival, network.traffic position = some arrival →
      arrival.message.bytes ≠ []) : probe.Answered network ↔ probe.answer.isSome := by
  rw [← valid.source_isSome_iff, Option.isSome_iff_exists, Probe.Answered]
  apply exists_congr
  intro arrival
  apply and_iff_left_of_imp
  intro isSource empty
  obtain ⟨⟨position, _, _, present⟩, _, kind⟩ := valid.takes_of_source isSource
  cases ip with
  | useIpv4 => exact headed rfl position arrival present empty
  | useIpv6 =>
      -- An empty datagram reads as type zero, which is no answer of version six.
      rw [empty] at kind
      rcases kind with exceeded | ⟨reply, _⟩
      · exact absurd exceeded (by decide)
      · exact absurd reply (by decide)

/-- A delay is minus one exactly when its probe has no answer. -/
theorem hopDelay_eq_iff {network : Network} {limit : Int} {probes : List (Probe ip)}
    (valid : ∀ probe ∈ probes, probe.Valid network limit) {index : Nat} {probe : Probe ip}
    {value : Int} (here : probes[index]? = some probe)
    (isValue : (hopDelay ip (probes.map Probe.compose))[index]? = some value) :
    value = -1 ↔ ¬ probe.Answered network := by
  have first := valid probe (List.mem_of_getElem? here)
  rw [hopDelay, List.getElem?_map, List.getElem?_map, here] at isValue
  obtain rfl := Option.some.inj isValue
  rw [Probe.Answered, ← first.length_ne_zero_iff]
  beta_reduce
  split
  · next answered =>
      have positive : 0 ≤ milliseconds probe.compose.elapsed :=
        Int.tdiv_nonneg first.elapsed_nonneg (by decide)
      simp only [answered, ne_eq, not_false_eq_true, not_true_eq_false, iff_false]
      omega
  · next silent => simp only [silent, not_false_eq_true]

end Delays

section Loops

/-- The entry that one hop limit leaves. -/
def hopEntry (ip : IpType) (route : Route) (dest : String) (timeout : Int) (ttl : Nat) :
    HopEntry :=
  match asyncPing ip (route.hop ttl) dest 3 ttl (ofMilliseconds timeout) with
  | .error what => .error what
  | .ok composes => .success ttl (hopDelay ip composes)
      (if (hopAddress ip composes).isUnspecified then none else some (hopAddress ip composes))

/-- The remembered index behind the iteration with this hop limit. -/
def validIdxAfter (ip : IpType) (route : Route) (dest : String) (timeout : Int) : Nat → UInt64
  | 0 => 0
  | ttl + 1 =>
      match asyncPing ip (route.hop (ttl + 1)) dest 3 (ttl + 1 : Nat) (ofMilliseconds timeout) with
      | .error _ => validIdxAfter ip route dest timeout ttl
      | .ok composes =>
          if (hopAddress ip composes).isUnspecified then validIdxAfter ip route dest timeout ttl
          else UInt64.ofNat ttl

/-- The stop test of the iteration with this hop limit. -/
def hopStops (ip : IpType) (route : Route) (dest : String) (timeout : Int)
    (destination : Address) (canPing : Bool) (ttl : Nat) : Bool :=
  match asyncPing ip (route.hop ttl) dest 3 ttl (ofMilliseconds timeout) with
  | .error _ => false
  | .ok composes => decide (hopAddress ip composes = destination ∨
      UInt64.ofNat ttl - validIdxAfter ip route dest timeout ttl > 10 ∧ canPing = false)

/-- The trace is a loop over the hop limits that breaks on its stop test. -/
theorem tracertLoop_eq_breakLoop (remaining index : Nat) :
    tracertLoop ip route dest timeout destination canPing remaining (index + 1)
        (validIdxAfter ip route dest timeout index) =
      breakLoop (fun index => hopEntry ip route dest timeout (index + 1))
        (fun index => hopStops ip route dest timeout destination canPing (index + 1))
        remaining index := by
  induction remaining generalizing index with
  | zero => rfl
  | succ remaining ih =>
      have next := ih (index + 1)
      rw [breakLoop, tracertLoop, hopEntry, hopStops]
      rw [validIdxAfter] at next
      cases returned : asyncPing ip (route.hop (index + 1)) dest 3 (index + 1 : Nat)
          (ofMilliseconds timeout) with
      | error what =>
          simp only [returned] at next
          simp only [coSpawn, Bool.false_eq_true, if_false]
          rw [next]
      | ok composes =>
          simp only [returned] at next
          simp only [coSpawn, decide_eq_true_eq]
          rw [validIdxAfter, returned]
          simp only [Nat.add_sub_cancel]
          rw [next]

variable {hopsCount : Int} {composes : List (IcmpCompose ip)}

/-- A reachable and resolved host is traced by the loop. -/
theorem tracert_eq_breakLoop
    (reached : asyncPing ip route.reachability dest 3 64 (ofMilliseconds 1000) = .ok composes)
    (resolved : route.resolve dest = .ok destination) :
    tracert ip route dest hopsCount timeout =
      breakLoop (fun index => hopEntry ip route dest timeout (index + 1))
        (fun index => hopStops ip route dest timeout destination
          (composes.any fun compose => compose.length ≠ 0) (index + 1)) hopsCount.toNat 0 := by
  rw [← tracertLoop_eq_breakLoop, tracert, reached, resolved]
  rfl

/-- The entry of a hop limit describes its probes. -/
theorem hopEntry_describes {ttl : Nat} (positive : 0 < ttl) :
    Describes ip route dest timeout ttl (hopEntry ip route dest timeout ttl) := by
  rw [hopEntry]
  cases returned : asyncPing ip (route.hop ttl) dest 3 ttl (ofMilliseconds timeout) with
  | error what =>
      change (hopRun ip route dest timeout ttl).failure = some what
      rw [asyncPing] at returned
      cases failed : (hopRun ip route dest timeout ttl).failure with
      | none =>
          rw [hopRun] at failed
          simp [failed] at returned
      | some other =>
          rw [hopRun] at failed
          simp only [failed, Except.error.injEq] at returned
          rw [returned]
  | ok composes =>
      obtain ⟨complete, isComposes⟩ := asyncPing_ok_iff.mp returned
      have prepared : (route.hop ttl).Prepared dest ttl := by
        by_contra unprepared
        have unsent : ∃ what, pingRun ip (route.hop ttl) dest 3 ttl (ofMilliseconds timeout) =
            ⟨[], some what⟩ := pingRun_of_unprepared (by decide) (by omega) unprepared
        obtain ⟨what, failed⟩ := unsent
        rw [failed] at complete
        simp at complete
      have length := pingRun_length (by decide) (by omega) prepared complete
      have valid : ∀ probe ∈ (hopRun ip route dest timeout ttl).probes,
          probe.Valid (route.hop ttl) (ofMilliseconds timeout) := by
        intro probe member
        obtain ⟨index, here⟩ := List.mem_iff_getElem?.mp member
        exact (pingRun_valid here).1
      refine ⟨rfl, complete, length, ?_, ?_, (shown_eq returned).2⟩
      · rw [hopDelay, List.length_map, isComposes, List.length_map]
        exact length
      · intro index probe value here isValue
        rw [isComposes] at isValue
        exact hopDelay_eq_iff valid here isValue

end Loops

section Stops

variable {ttl : Nat}

/-- A hop limit whose entry records the destination stops the loop. -/
theorem hopStops_of_records
    (records : (hopEntry ip route dest timeout ttl).Records destination) :
    hopStops ip route dest timeout destination canPing ttl = true := by
  obtain ⟨shownTtl, delay, isEntry⟩ := records
  rw [hopEntry] at isEntry
  rw [hopStops]
  cases returned : asyncPing ip (route.hop ttl) dest 3 ttl (ofMilliseconds timeout) with
  | error what => simp [returned] at isEntry
  | ok composes =>
      simp only [returned, HopEntry.success.injEq] at isEntry
      obtain ⟨_, _, isShown⟩ := isEntry
      split at isShown
      · simp at isShown
      · exact decide_eq_true (.inl (Option.some.inj isShown))

/-- A stop at the destination leaves its address, unless that is the unspecified one. -/
theorem records_of_hopStops
    (stops : hopStops ip route dest timeout destination true ttl = true) :
    (hopEntry ip route dest timeout ttl).Records destination ∨
      destination = Address.unspecified ∧
        (hopEntry ip route dest timeout ttl).RecordsTimeout := by
  rw [hopStops] at stops
  rw [hopEntry]
  cases returned : asyncPing ip (route.hop ttl) dest 3 ttl (ofMilliseconds timeout) with
  | error what => simp [returned] at stops
  | ok composes =>
      simp only [returned, Bool.true_eq_false, and_false, or_false, decide_eq_true_eq] at stops
      obtain ⟨same, isShown⟩ := shown_eq returned
      simp only [isShown]
      cases found : firstSpecified (answerSources ip (route.hop ttl)
          (hopRun ip route dest timeout ttl).probes) with
      | none =>
          rw [found] at same
          exact .inr ⟨stops.symm.trans same, ttl, _, rfl⟩
      | some address =>
          rw [found] at same
          refine .inl ⟨ttl, hopDelay ip composes, ?_⟩
          rw [← stops, same]
          rfl

end Stops

/-- A trace has at most one entry for each hop limit in turn. Each entry describes its probes, only
the last one can record the destination, and the loop breaks early for a reason. -/
theorem tracert_shape (ip : IpType) (route : Route) (dest : String) (hopsCount timeout : Int)
    (composes : List (IcmpCompose ip)) (destination : Address)
    (reached : asyncPing ip route.reachability dest 3 64 (ofMilliseconds 1000) = .ok composes)
    (resolved : route.resolve dest = .ok destination) :
    (tracert ip route dest hopsCount timeout).length ≤ hopsCount.toNat ∧
      (∀ index entry, (tracert ip route dest hopsCount timeout)[index]? = some entry →
        Describes ip route dest timeout (index + 1) entry ∧
          (entry.Records destination →
            index + 1 = (tracert ip route dest hopsCount timeout).length)) ∧
      ((tracert ip route dest hopsCount timeout).length < hopsCount →
        (composes.any fun compose => compose.length ≠ 0) = false ∨
          ∃ last, (tracert ip route dest hopsCount timeout).getLast? = some last ∧
            (last.Records destination ∨
              destination = Address.unspecified ∧ last.RecordsTimeout)) := by
  rw [tracert_eq_breakLoop reached resolved]
  generalize (composes.any fun compose => compose.length ≠ 0) = canPing
  refine ⟨breakLoop_length_le _ _ _ _, ?_, ?_⟩
  · intro index entry here
    have isEntry := breakLoop_getElem? _ _ here
    rw [Nat.zero_add] at isEntry
    apply And.intro
    · rw [isEntry]
      exact hopEntry_describes (Nat.succ_pos index)
    · intro records
      rw [isEntry] at records
      have stops : hopStops ip route dest timeout destination canPing (index + 1) = true :=
        hopStops_of_records records
      have inside := (List.getElem?_eq_some_iff.mp here).1
      by_contra more
      have reaches := (lt_breakLoop_length_iff _ _ _ _ (index + 1)).mp
        (Nat.lt_of_le_of_ne inside more)
      have unstopped := reaches.2 index (Nat.lt_succ_self index)
      rw [Nat.zero_add] at unstopped
      exact absurd (stops.symm.trans unstopped) (by decide)
  · intro short
    cases canPing with
    | false => exact .inl rfl
    | true =>
        have within : (breakLoop (fun index => hopEntry ip route dest timeout (index + 1))
            (fun index => hopStops ip route dest timeout destination true (index + 1))
            hopsCount.toNat 0).length < hopsCount.toNat := by omega
        obtain ⟨k, length, stops⟩ := breakLoop_stopped _ _ within
        have inside := Nat.lt_succ_self k
        rw [Nat.succ_eq_add_one, ← length] at inside
        have here := List.getElem?_eq_getElem inside
        have isEntry := breakLoop_getElem? _ _ here
        rw [Nat.zero_add] at isEntry stops
        rw [List.getLast?_eq_getElem?, length, Nat.add_sub_cancel, here, isEntry]
        exact .inr ⟨_, rfl, records_of_hopStops stops⟩

/-- The reachability test of this route gets no answer, and its hops are traced. -/
theorem tracert_shape_prompt :
    ∃ composes, asyncPing .useIpv4 promptRoute.reachability "host" 3 64 (ofMilliseconds 1000) =
        .ok composes ∧
      (tracert .useIpv4 promptRoute "host" 2 1000).length ≤ (2 : Int).toNat ∧
      (∀ index entry, (tracert .useIpv4 promptRoute "host" 2 1000)[index]? = some entry →
        Describes .useIpv4 promptRoute "host" 1000 (index + 1) entry ∧
          (entry.Records (.v4 hostAddress) →
            index + 1 = (tracert .useIpv4 promptRoute "host" 2 1000).length)) ∧
      ((tracert .useIpv4 promptRoute "host" 2 1000).length < (2 : Int) →
        (composes.any fun compose => compose.length ≠ 0) = false ∨
          ∃ last, (tracert .useIpv4 promptRoute "host" 2 1000).getLast? = some last ∧
            (last.Records (.v4 hostAddress) ∨
              Address.v4 hostAddress = Address.unspecified ∧ last.RecordsTimeout)) := by
  have reached : asyncPing .useIpv4 promptRoute.reachability "host" 3 64 (ofMilliseconds 1000) =
      .ok _ := asyncPing_ok_iff.mpr ⟨by decide +kernel, rfl⟩
  exact ⟨_, reached, tracert_shape .useIpv4 promptRoute "host" 2 1000 _ (.v4 hostAddress) reached
    rfl⟩

end NetworkTools
