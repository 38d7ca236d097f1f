/-
This file proves when a trace stops at the hop limit at which its destination answers.
-/

import NetworkTools.Proof.Trace.GiveUp

namespace NetworkTools
open Library Specification

variable {ip : IpType} {route : Route} {dest : String} {timeout : Int} {destination : Address}

theorem datagramOrigin_isUnspecified (ip : IpType) (datagram : Datagram) :
    (datagramOrigin ip datagram).isUnspecified = (datagramSource ip datagram).isUnspecified := by
  cases ip <;> rfl

/-- A completed hop without an address has answers from unspecified addresses only. -/
theorem isUnspecified_of_silent {ttl : Nat}
    (complete : (hopRun ip route dest timeout ttl).failure = none)
    (silent : hopRecord ip route dest timeout ttl = none)
    (answers : DestinationAnswers ip route dest timeout destination ttl) :
    destination.isUnspecified = true := by
  obtain ⟨probe, member, arrival, isSource, _, origin⟩ := answers
  rw [hopRecord, if_pos complete, firstSpecified, List.find?_eq_none] at silent
  have listed : datagramSource ip arrival.message ∈ answerSources ip (route.hop ttl)
      (hopRun ip route dest timeout ttl).probes :=
    List.mem_filterMap.mpr ⟨probe, member, by rw [isSource]; rfl⟩
  have unspecified := silent _ listed
  simp only [Bool.not_eq_true', Bool.not_eq_false] at unspecified
  rw [← origin, datagramOrigin_isUnspecified, unspecified]

/-- A trace stops once its destination has answered exactly when, at each hop limit at which this
happens, the probes are completed and the first answer with an address is from the destination. -/
theorem stopsOnceAnswered_iff (ip : IpType) (route : Route) (dest : String) (hopsCount : Int32)
    (timeout : Int) (composes : List (IcmpCompose ip)) (destination : Address)
    (reached : asyncPing ip route.reachability dest 3 64 (ofMilliseconds 1000) = .ok composes)
    (resolved : route.resolve dest = .ok destination) :
    StopsOnceAnswered ip route dest hopsCount.toInt timeout destination ↔
      ∀ ttl : Nat, 1 ≤ ttl → ttl < hopsCount.toInt →
        (∀ earlier, 1 ≤ earlier → earlier < ttl →
          ¬ StopsAt ip route dest timeout destination
            (composes.any fun compose => compose.length ≠ 0) earlier) →
        DestinationAnswers ip route dest timeout destination ttl →
          (hopRun ip route dest timeout ttl).failure = none ∧
            ((hopRecord ip route dest timeout ttl).getD Address.unspecified = destination ∨
              destination.isUnspecified = true ∧ GivesUp ip route dest timeout ttl ∧
                (composes.any fun compose => compose.length ≠ 0) = false) := by
  have probed (ttl : Nat) := @lt_tracert_length_iff ip route dest timeout destination hopsCount
    composes reached resolved ttl
  simp only [reaches_succ_index_iff (StopsAt ip route dest timeout destination
    (composes.any fun compose => compose.length ≠ 0))] at probed
  apply Iff.intro
  · intro stopsOnce ttl positive inside before answers
    have ended := stopsOnce ttl positive answers
    -- All earlier hop limits let the trace go on, so this one stops it.
    have stops : StopsAt ip route dest timeout destination
        (composes.any fun compose => compose.length ≠ 0) ttl := by
      by_contra goesOn
      refine absurd ((probed ttl).mpr ⟨by omega, fun number isPositive within => ?_⟩) (by omega)
      rcases Nat.lt_or_eq_of_le within with less | rfl
      · exact before number isPositive less
      · exact goesOn
    obtain ⟨complete, isDestination | ⟨givesUp, unreachable⟩⟩ := stops
    · exact ⟨complete, .inl isDestination⟩
    · have silent : hopRecord ip route dest timeout ttl = none :=
        givesUp.completesSilence.2 ttl (by omega) (Nat.le_refl ttl)
      exact ⟨complete, .inr ⟨isUnspecified_of_silent complete silent answers, givesUp,
        unreachable⟩⟩
  · intro condition ttl positive answers
    by_contra more
    obtain ⟨inside, goesOn⟩ := (probed ttl).mp (by omega)
    obtain ⟨complete, stops⟩ := condition ttl positive (by omega)
      (fun earlier isPositive before => goesOn earlier isPositive (Nat.le_of_lt before)) answers
    apply goesOn ttl positive (Nat.le_refl ttl)
    rcases stops with isDestination | ⟨_, givesUp, unreachable⟩
    · exact ⟨complete, .inl isDestination⟩
    · exact ⟨complete, .inr ⟨givesUp, unreachable⟩⟩

/-- The second hop of this route is the destination, and it answers all three probes. -/
def reachedRoute : Route where
  reachability := deliveringNetwork 7 []
  resolve _ := .ok (.v4 hostAddress)
  hop ttl := deliveringNetwork 7 (if ttl = 2 then
      [⟨1, replyDatagram hostAddress 7 0⟩, ⟨2, replyDatagram hostAddress 7 1⟩,
        ⟨3, replyDatagram hostAddress 7 2⟩]
    else [⟨1, exceededDatagram routerAddress 7 0⟩])

theorem reachedRoute_answers {ttl : Nat}
    (answers : DestinationAnswers .useIpv4 reachedRoute "host" 1000 (.v4 hostAddress) ttl) :
    ttl = 2 := by
  obtain ⟨probe, _, arrival, isSource, _, origin⟩ := answers
  obtain ⟨position, _, present⟩ := Option.bind_eq_some_iff.mp isSource
  by_contra apart
  have network : reachedRoute.hop ttl =
      deliveringNetwork 7 [⟨1, exceededDatagram routerAddress 7 0⟩] := by
    simp only [reachedRoute, if_neg apart]
  rw [network] at present
  cases position with
  | zero =>
      obtain rfl := Option.some.inj present
      exact absurd origin (by decide +kernel)
  | succ position => simp [deliveringNetwork, TimedScan.ofList] at present

theorem stopsOnceAnswered_reached :
    StopsOnceAnswered .useIpv4 reachedRoute "host" (30 : Int32).toInt 1000 (.v4 hostAddress) := by
  apply (stopsOnceAnswered_iff .useIpv4 reachedRoute "host" 30 1000 _ (.v4 hostAddress)
    (asyncPing_ok_iff.mpr ⟨by decide +kernel, rfl⟩) rfl).mpr
  intro ttl _ _ _ answers
  obtain rfl := reachedRoute_answers answers
  exact ⟨by decide +kernel, .inl (by decide +kernel)⟩

/-- The first probe of this route meets a router, and the second one meets the destination. -/
def balancedRoute : Route where
  reachability := deliveringNetwork 7 []
  resolve _ := .ok (.v4 hostAddress)
  hop _ := deliveringNetwork 7 [⟨1, exceededDatagram routerAddress 7 0⟩,
    ⟨2, replyDatagram hostAddress 7 1⟩]

/-- The trace records the router of the first hop and goes on to the second hop. -/
theorem stopsOnceAnswered_balanced :
    balancedRoute.resolve "host" = .ok (.v4 hostAddress) ∧
      (tracert .useIpv4 balancedRoute "host" 2 1000).length = 2 ∧
      ¬ StopsOnceAnswered .useIpv4 balancedRoute "host" 2 1000 (.v4 hostAddress) := by
  have length : (tracert .useIpv4 balancedRoute "host" 2 1000).length = 2 := by decide +kernel
  refine ⟨rfl, length, fun stopsOnce => ?_⟩
  have answered : (hopRun .useIpv4 balancedRoute "host" 1000 1).probes.any (fun probe =>
      decide (probe.source (balancedRoute.hop 1).traffic =
        some ⟨2, replyDatagram hostAddress 7 1⟩)) = true := by
    decide +kernel
  obtain ⟨probe, member, isSource⟩ := List.any_eq_true.mp answered
  have ended := stopsOnce 1 (Nat.le_refl 1) ⟨probe, member, ⟨2, replyDatagram hostAddress 7 1⟩,
    of_decide_eq_true isSource, by decide +kernel, by decide +kernel⟩
  rw [length] at ended
  exact absurd ended (by decide)

end NetworkTools
