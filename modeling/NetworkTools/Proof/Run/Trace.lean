/-
This file proves which hop of a trace gets the credit for a received datagram.
-/

import NetworkTools.Proof.Run.Attribution
import NetworkTools.Specification.Elicitation
import NetworkTools.Specification.Message

namespace NetworkTools
open Library Specification

variable {ip : IpType} {route : Route} {dest : String} {timeout : Int}

theorem default_isUnspecified (ip : IpType) :
    (ip.sourceAddress ({} : IcmpCompose ip).ipHd).isUnspecified = true := by
  cases ip <;> decide

/-- The accessor reads back the address that the update stored. -/
theorem setSourceAddress_sourceAddress (address : AddressV6) :
    (Ipv6Header.zero.setSourceAddress address).sourceAddress = ⟨address.bytes, 0⟩ := by
  unfold Ipv6Header.sourceAddress
  refine congrArg (AddressV6.mk · 0) ?_
  ext index inside : 1
  rw [Vector.getElem_ofFn]
  simp only [Ipv6Header.setSourceAddress]
  rw [Vector.getElem_set_ne (by decide) (by omega) (by omega), store_getElem]
  simp [inside]

theorem ipv4Extract_sourceAddress (bytes : List UInt8) :
    (Ipv4Header.extract ⟨bytes, true⟩ .zero).1.sourceAddress =
      ⟨#v[byteAt bytes 12, byteAt bytes 13, byteAt bytes 14, byteAt bytes 15]⟩ := by
  rw [← ipv4Extract_fixed bytes 12 (by decide), ← ipv4Extract_fixed bytes 13 (by decide),
    ← ipv4Extract_fixed bytes 14 (by decide), ← ipv4Extract_fixed bytes 15 (by decide)]
  generalize (Ipv4Header.extract ⟨bytes, true⟩ .zero).1 = header
  rfl

/-- The entry reports the source of its datagram. -/
theorem accepted_sourceAddress (ip : IpType) (datagram : Datagram) :
    ip.sourceAddress (accepted ip datagram).ipHd = datagramSource ip datagram := by
  cases ip with
  | useIpv4 =>
      change Address.v4 (Ipv4Header.extract ⟨datagram.bytes, true⟩ .zero).1.sourceAddress = _
      rw [ipv4Extract_sourceAddress]
      rfl
  | useIpv6 =>
      change Address.v6 (Ipv6Header.zero.setSourceAddress datagram.sender).sourceAddress = _
      rw [setSourceAddress_sourceAddress, datagramSource]

/-- The kept address is the start or the specified source of an entry. -/
theorem hopAddress_cases (composes : List (IcmpCompose ip)) :
    hopAddress ip composes = Address.unspecified ∨
      ∃ compose ∈ composes, hopAddress ip composes = ip.sourceAddress compose.ipHd ∧
        (ip.sourceAddress compose.ipHd).isUnspecified = false := by
  unfold hopAddress
  generalize Address.unspecified = start
  induction composes generalizing start with
  | nil => exact .inl rfl
  | cons compose rest ih =>
      rw [List.foldl_cons]
      split
      · next replaced =>
          simp only [Bool.and_eq_true, Bool.not_eq_true'] at replaced
          rcases ih (ip.sourceAddress compose.ipHd) with kept | ⟨other, member, same, specified⟩
          · exact .inr ⟨compose, List.mem_cons_self, kept, replaced.2⟩
          · exact .inr ⟨other, List.mem_cons_of_mem _ member, same, specified⟩
      · rcases ih start with kept | ⟨other, member, same, specified⟩
        · exact .inl kept
        · exact .inr ⟨other, List.mem_cons_of_mem _ member, same, specified⟩

/-- Each recorded hop is a run of its own hop limit. -/
theorem tracertLoop_getElem (destination : Address) (canPing : Bool) (remaining first : Nat)
    (validIdx : UInt64) (index ttl : Nat) (delay : List Int) (shown : Option Address)
    (here : (tracertLoop ip route dest timeout destination canPing remaining first
      validIdx)[index]? = some (.success ttl delay shown)) :
    ttl = first + index ∧
      ∃ composes, asyncPing ip (route.hop ttl) dest 3 ttl (ofMilliseconds timeout) =
          .ok composes ∧
        shown = if (hopAddress ip composes).isUnspecified then none
          else some (hopAddress ip composes) := by
  induction remaining generalizing first validIdx index with
  | zero => simp [tracertLoop] at here
  | succ remaining ih =>
      cases returned : asyncPing ip (route.hop first) dest 3 first (ofMilliseconds timeout) with
      | error what =>
          simp only [tracertLoop, coSpawn, returned] at here
          cases index with
          | zero => simp at here
          | succ index =>
              rw [List.getElem?_cons_succ] at here
              obtain ⟨sameTtl, run⟩ := ih (first + 1) _ index here
              exact ⟨by omega, run⟩
      | ok composes =>
          simp only [tracertLoop, coSpawn, returned] at here
          cases index with
          | zero =>
              rw [List.getElem?_cons_zero, Option.some.injEq, HopEntry.success.injEq] at here
              rcases here with ⟨rfl, _, isShown⟩
              exact ⟨rfl, composes, returned, isShown.symm⟩
          | succ index =>
              rw [List.getElem?_cons_succ] at here
              generalize (if (hopAddress ip composes).isUnspecified then validIdx
                else UInt64.ofNat (first - 1)) = nextIdx at here
              split at here
              · simp at here
              · obtain ⟨sameTtl, run⟩ := ih (first + 1) _ index here
                exact ⟨by omega, run⟩

/-- A shown address is the source of a datagram that a wait of its hop takes for an answer. -/
theorem tracert_shown {hopsCount : Int} {index ttl : Nat} {delay : List Int} {address : Address}
    (here : (tracert ip route dest hopsCount timeout)[index]? =
      some (.success ttl delay (some address))) :
    ttl = index + 1 ∧ ∃ (round : Nat) (probe : Probe ip) (position : Nat)
        (arrival : Arrival Datagram),
      (pingRun ip (route.hop ttl) dest 3 ttl (ofMilliseconds timeout)).probes[round]? =
          some probe ∧
        probe.began.position ≤ position ∧ position < probe.ended.position ∧
        (route.hop ttl).traffic position = some arrival ∧
        ReadsAsAnswer ip (route.hop ttl).identifier round arrival.message.bytes ∧
        datagramSource ip arrival.message = address := by
  unfold tracert at here
  split at here
  · cases index <;> simp at here
  · cases index <;> simp at here
  · split at here
    · cases index <;> simp at here
    · next composes _ _ destination _ =>
        obtain ⟨sameTtl, entries, returned, isShown⟩ :=
          tracertLoop_getElem destination _ _ _ _ _ _ _ _ here
        refine ⟨by omega, ?_⟩
        by_cases unspecified : (hopAddress ip entries).isUnspecified = true
        · simp [unspecified] at isShown
        rw [if_neg unspecified, Option.some.injEq] at isShown
        rcases hopAddress_cases entries with none | ⟨compose, member, same, specified⟩
        · rw [none] at unspecified
          exact absurd (by decide) unspecified
        obtain ⟨round, present⟩ := List.mem_iff_getElem?.mp member
        obtain ⟨probe, isRound, rfl⟩ := asyncPing_round returned present
        obtain ⟨valid, _, number⟩ := pingRun_valid isRound
        cases isSource : probe.source (route.hop ttl).traffic with
        | none =>
            rw [valid.compose_of_sourceless isSource] at specified
            exact absurd (specified.symm.trans (default_isUnspecified ip)) (by decide)
        | some arrival =>
            obtain ⟨⟨position, lower, upper, there⟩, filled, kind⟩ := valid.takes_of_source isSource
            rw [number] at kind
            refine ⟨round, probe, position, arrival, isRound, lower, upper, there, kind, ?_⟩
            rw [isShown, same, ← accepted_sourceAddress, ← filled]
            rfl

/-- A hop whose waits take only its own answers shows the source of such an answer. -/
theorem tracert_attributed (elicitation : Elicitation ip route dest) {hopsCount : Int}
    {index ttl : Nat} {delay : List Int} {address : Address}
    (here : (tracert ip route dest hopsCount timeout)[index]? =
      some (.success ttl delay (some address)))
    (own : elicitation.TakesOwnAnswers timeout ttl) :
    ttl = index + 1 ∧ ∃ position arrival, (route.hop ttl).traffic position = some arrival ∧
      datagramSource ip arrival.message = address ∧ elicitation.ElicitedAt ttl position := by
  obtain ⟨sameTtl, round, probe, position, arrival, isRound, lower, upper, there, kind, source⟩ :=
    tracert_shown here
  have taken := pingTakes_iff.mpr ⟨probe, isRound, rfl, lower, upper, there⟩
  exact ⟨sameTtl, position, arrival, there, source, own _ round position arrival taken kind⟩

/-- Each hop of this route answers the first request of its own hop limit. -/
def promptRoute : Route where
  reachability := deliveringNetwork 7 []
  resolve _ := .ok (.v4 hostAddress)
  hop _ := deliveringNetwork 7 [⟨1, exceededDatagram routerAddress 7 0⟩]

theorem promptRoute_answers (ttl position : Nat) (arrival : Arrival Datagram)
    (present : (promptRoute.hop ttl).traffic position = some arrival) :
    position = 0 ∧ Answers .useIpv4 7 (.v4 hostAddress) 0 arrival.message.bytes := by
  cases position with
  | zero =>
      obtain rfl := Option.some.inj present
      exact ⟨rfl, by decide +kernel⟩
  | succ position => simp [promptRoute, deliveringNetwork, TimedScan.ofList] at present

def promptElicitation : Elicitation .useIpv4 promptRoute "host" where
  cause ttl position :=
    if positive : 1 ≤ ttl then some ⟨ttl, 0, positive, by decide⟩ else none
  earlier := by
    intro ttl position request isCause
    split at isCause
    · obtain rfl := Option.some.inj isCause
      exact Nat.le_refl _
    · simp at isCause
  answers := by
    intro ttl position request arrival isCause present
    split at isCause
    · obtain rfl := Option.some.inj isCause
      exact ⟨_, rfl, (promptRoute_answers ttl position arrival present).2⟩
    · simp at isCause

theorem tracert_attributed_prompt :
    1 = 0 + 1 ∧ ∃ position arrival, (promptRoute.hop 1).traffic position = some arrival ∧
      datagramSource .useIpv4 arrival.message = .v4 routerAddress ∧
      promptElicitation.ElicitedAt 1 position := by
  have here : (tracert .useIpv4 promptRoute "host" 1 1000)[0]? =
      some (.success 1 [0, -1, -1] (some (.v4 routerAddress))) := by decide +kernel
  exact tracert_attributed promptElicitation here fun _ _ _ _ _ _ => ⟨_, rfl, rfl⟩

/-- A second router is one hop behind the first. -/
def secondRouterAddress : AddressV4 := ⟨#v[198, 51, 100, 2]⟩

/-- The answer of the first router comes only while the second hop is probed. -/
def lateRoute : Route where
  reachability := deliveringNetwork 7 []
  resolve _ := .ok (.v4 hostAddress)
  hop
    | 2 => deliveringNetwork 7 [⟨1, exceededDatagram routerAddress 7 0⟩,
        ⟨2, exceededDatagram secondRouterAddress 7 0⟩]
    | _ => deliveringNetwork 7 []

def lateElicitation : Elicitation .useIpv4 lateRoute "host" where
  cause
    | 2, 0 => some ⟨1, 0, by decide, by decide⟩
    | 2, 1 => some ⟨2, 0, by decide, by decide⟩
    | _, _ => none
  earlier := by
    intro ttl position request isCause
    split at isCause
    · obtain rfl := Option.some.inj isCause
      decide
    · obtain rfl := Option.some.inj isCause
      decide
    · simp at isCause
  answers := by
    intro ttl position request arrival isCause present
    split at isCause
    · obtain rfl := Option.some.inj isCause
      obtain rfl := Option.some.inj present
      exact ⟨.v4 hostAddress, rfl, by decide +kernel⟩
    · obtain rfl := Option.some.inj isCause
      obtain rfl := Option.some.inj present
      exact ⟨.v4 hostAddress, rfl, by decide +kernel⟩
    · simp at isCause

/-- The second hop shows the first router, which answered no request of the second hop. -/
theorem tracert_late :
    tracert .useIpv4 lateRoute "host" 2 10 =
        [.success 1 [-1, -1, -1] none, .success 2 [0, 0, -1] (some (.v4 routerAddress))] ∧
      ∀ position arrival, (lateRoute.hop 2).traffic position = some arrival →
        datagramSource .useIpv4 arrival.message = .v4 routerAddress →
          ¬ lateElicitation.ElicitedAt 2 position := by
  refine ⟨by decide +kernel, ?_⟩
  intro position arrival present source elicited
  match position with
  | 0 =>
      rcases elicited with ⟨request, isCause, own⟩
      obtain rfl := Option.some.inj isCause
      exact absurd own (by decide)
  | 1 =>
      obtain rfl := Option.some.inj present
      exact absurd source (by decide +kernel)
  | _ + 2 => simp [lateRoute, deliveringNetwork, TimedScan.ofList] at present

end NetworkTools
