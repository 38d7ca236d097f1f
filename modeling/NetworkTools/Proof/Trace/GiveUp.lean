/-
This file proves after how many silent hops a trace gives up.
-/

import NetworkTools.Proof.Trace.Shape

namespace NetworkTools
open Library Specification

variable {ip : IpType} {route : Route} {dest : String} {timeout : Int} {destination : Address}
  {canPing : Bool}

section Silence

/-- The unsigned difference is the distance as long as the counter fits. -/
theorem distance_gt_iff (ttl index : Nat) (behind : index ≤ ttl) (fits : ttl < 2147483648) :
    UInt64.ofNat ttl - UInt64.ofNat index > 10 ↔ 10 < ttl - index := by
  have counter : (UInt64.ofNat ttl).toNat = ttl := by
    rw [UInt64.toNat_ofNat']
    exact Nat.mod_eq_of_lt (by omega)
  have remembered : (UInt64.ofNat index).toNat = index := by
    rw [UInt64.toNat_ofNat']
    exact Nat.mod_eq_of_lt (by omega)
  rw [gt_iff_lt, UInt64.lt_iff_toNat_lt, UInt64.toNat_sub_of_le _ _ (by
    rw [UInt64.le_iff_toNat_le, counter, remembered]
    exact behind), counter, remembered]
  rfl

theorem hopRecord_of_error {ttl : Nat} {what : String}
    (returned : asyncPing ip (route.hop ttl) dest 3 ttl (ofMilliseconds timeout) = .error what) :
    (hopRun ip route dest timeout ttl).failure ≠ none ∧
      hopRecord ip route dest timeout ttl = none := by
  have failed : (hopRun ip route dest timeout ttl).failure ≠ none := by
    intro complete
    rw [asyncPing_ok_iff.mpr ⟨complete, rfl⟩] at returned
    simp at returned
  exact ⟨failed, if_neg failed⟩

theorem hopRecord_of_ok {ttl : Nat} {composes : List (IcmpCompose ip)}
    (returned : asyncPing ip (route.hop ttl) dest 3 ttl (ofMilliseconds timeout) = .ok composes) :
    (hopRun ip route dest timeout ttl).failure = none ∧
      hopAddress ip composes = (hopRecord ip route dest timeout ttl).getD Address.unspecified ∧
      (if (hopAddress ip composes).isUnspecified then none else some (hopAddress ip composes)) =
        hopRecord ip route dest timeout ttl := by
  have complete : (hopRun ip route dest timeout ttl).failure = none :=
    (asyncPing_ok_iff.mp returned).1
  rw [hopRecord, if_pos complete]
  exact ⟨complete, shown_eq returned⟩

/-- A silent hop keeps the remembered index, and an answered one replaces it. -/
theorem validIdxAfter_succ (ttl : Nat) :
    validIdxAfter ip route dest timeout (ttl + 1) =
      if hopRecord ip route dest timeout (ttl + 1) = none then
        validIdxAfter ip route dest timeout ttl
      else UInt64.ofNat ttl := by
  rw [validIdxAfter]
  cases returned : asyncPing ip (route.hop (ttl + 1)) dest 3 (ttl + 1 : Nat)
      (ofMilliseconds timeout) with
  | error what => rw [if_pos (hopRecord_of_error returned).2]
  | ok composes =>
      simp only
      rw [← (hopRecord_of_ok returned).2.2]
      by_cases unspecified : (hopAddress ip composes).isUnspecified = true
      · rw [if_pos unspecified, if_pos unspecified, if_pos rfl]
      · rw [if_neg unspecified, if_neg unspecified, if_neg (by simp)]

/-- The remembered index points to the last hop with an address. -/
theorem validIdxAfter_cases (ttl : Nat) :
    (validIdxAfter ip route dest timeout ttl = 0 ∧
        ∀ k, 1 ≤ k → k ≤ ttl → hopRecord ip route dest timeout k = none) ∨
      ∃ answered, 1 ≤ answered ∧ answered ≤ ttl ∧
        hopRecord ip route dest timeout answered ≠ none ∧
        validIdxAfter ip route dest timeout ttl = UInt64.ofNat (answered - 1) ∧
        ∀ k, answered < k → k ≤ ttl → hopRecord ip route dest timeout k = none := by
  induction ttl with
  | zero => exact .inl ⟨rfl, fun k positive zero => absurd positive (by omega)⟩
  | succ ttl ih =>
      rw [validIdxAfter_succ]
      by_cases silent : hopRecord ip route dest timeout (ttl + 1) = none
      · have extended (start : Nat)
            (before : ∀ k, start < k → k ≤ ttl → hopRecord ip route dest timeout k = none)
            (k : Nat) (later : start < k) (within : k ≤ ttl + 1) :
            hopRecord ip route dest timeout k = none := by
          rcases Nat.le_succ_iff.mp within with inside | rfl
          · exact before k later inside
          · exact silent
        rw [if_pos silent]
        obtain ⟨unset, none⟩ | ⟨answered, positive, within, isAnswered, same, none⟩ := ih
        · exact .inl ⟨unset, extended 0 none⟩
        · exact .inr ⟨answered, positive, by omega, isAnswered, same, extended answered none⟩
      · rw [if_neg silent]
        exact .inr ⟨ttl + 1, by omega, Nat.le_refl _, silent, rfl,
          fun k later within => absurd later (by omega)⟩

/-- The code waits for at least ten silent hops. -/
theorem GivesUp.completesSilence {ttl : Nat} (givesUp : GivesUp ip route dest timeout ttl) :
    CompletesSilence ip route dest timeout 10 ttl := by
  rcases givesUp with ⟨enough, silent⟩ | ⟨silence, _⟩
  · exact ⟨by omega, fun k above below => silent k (by omega) below⟩
  · exact silence

/-- The counters of the code measure the silence behind the last hop with an address. -/
theorem givesUp_iff (ttl : Nat) (fits : ttl < 2147483648) :
    UInt64.ofNat ttl - validIdxAfter ip route dest timeout ttl > 10 ↔
      GivesUp ip route dest timeout ttl := by
  obtain ⟨start, silent⟩ | ⟨answered, positive, within, isAnswered, same, silent⟩ :=
    @validIdxAfter_cases ip route dest timeout ttl
  · rw [start, show (0 : UInt64) = UInt64.ofNat 0 from rfl, distance_gt_iff ttl 0 (by omega) fits]
    apply Iff.intro
    · intro far
      exact .inl ⟨by omega, fun k above below => silent k (by omega) below⟩
    · intro givesUp
      rcases givesUp with ⟨enough, _⟩ | ⟨_, earlier, positive, before, isAnswered⟩
      · omega
      · exact absurd (silent earlier positive (by omega)) isAnswered
  · rw [same, distance_gt_iff ttl (answered - 1) (by omega) fits]
    apply Iff.intro
    · intro far
      exact .inr ⟨⟨by omega, fun k above below => silent k (by omega) below⟩, answered, positive,
        by omega, isAnswered⟩
    · intro givesUp
      by_contra near
      exact isAnswered (givesUp.completesSilence.2 answered (by omega) within)

/-- The stop test of the code is the test of the addresses and the silence. -/
theorem hopStops_iff (ttl : Nat) (fits : ttl < 2147483648) :
    hopStops ip route dest timeout destination canPing ttl = true ↔
      StopsAt ip route dest timeout destination canPing ttl := by
  rw [hopStops, StopsAt, ← givesUp_iff ttl fits]
  cases returned : asyncPing ip (route.hop ttl) dest 3 ttl (ofMilliseconds timeout) with
  | error what => simp [(hopRecord_of_error returned).1]
  | ok composes =>
      obtain ⟨complete, same, _⟩ := hopRecord_of_ok returned
      simp only [complete, same, true_and, decide_eq_true_eq]

end Silence

section Tolerance

variable {hopsCount : Int32} {composes : List (IcmpCompose ip)}
  (reached : asyncPing ip route.reachability dest 3 64 (ofMilliseconds 1000) = .ok composes)
  (resolved : route.resolve dest = .ok destination)

include reached resolved

/-- The trace probes each hop limit until one stops it. -/
theorem lt_tracert_length_iff (k : Nat) :
    k < (tracert ip route dest hopsCount.toInt timeout).length ↔
      k < hopsCount.toInt.toNat ∧ Reaches (fun index => StopsAt ip route dest timeout destination
        (composes.any fun compose => compose.length ≠ 0) (index + 1)) k := by
  have limit := hopsCount.toInt_lt
  rw [tracert_eq_breakLoop reached resolved, lt_breakLoop_length_iff]
  apply and_congr_right
  intro inside
  apply forall₂_congr
  intro j before
  rw [Nat.zero_add, ← Bool.not_eq_true, hopStops_iff (j + 1) (by omega)]

end Tolerance

/-- A first completed silence of ten hops is no silence of eleven. -/
theorem not_completesSilence_eleven {ttl : Nat}
    (first : ∀ earlier, 1 ≤ earlier → earlier < ttl →
      ¬ CompletesSilence ip route dest timeout 10 earlier) :
    ¬ CompletesSilence ip route dest timeout 11 ttl := by
  intro silence
  obtain ⟨enough, silent⟩ := silence
  exact first (ttl - 1) (by omega) (by omega)
    ⟨by omega, fun k above below => silent k (by omega) (by omega)⟩

/-- A stop away from the destination completes at least ten silent hops. -/
theorem completesSilence_of_stopsAt {ttl : Nat} (specified : destination ≠ Address.unspecified)
    (elsewhere : hopRecord ip route dest timeout ttl ≠ some destination)
    (stops : StopsAt ip route dest timeout destination false ttl) :
    CompletesSilence ip route dest timeout 10 ttl := by
  obtain ⟨_, isDestination | ⟨givesUp, _⟩⟩ := stops
  · cases record : hopRecord ip route dest timeout ttl with
    | none =>
        rw [record] at isDestination
        exact absurd isDestination.symm specified
    | some address =>
        rw [record] at isDestination
        exact absurd (by rw [record, ← isDestination]; rfl) elsewhere
  · exact givesUp.completesSilence

section Rules

variable {hopsCount : Int32} {composes : List (IcmpCompose ip)}
  (reached : asyncPing ip route.reachability dest 3 64 (ofMilliseconds 1000) = .ok composes)
  (unreachable : (composes.any fun compose => compose.length ≠ 0) = false)
  (resolved : route.resolve dest = .ok destination)

include reached unreachable resolved

/-- A tolerance describes the trace exactly when it agrees with the stop test on the first stop. -/
theorem givesUpAfter_iff_agrees (tolerance : Nat) :
    GivesUpAfter ip route dest timeout hopsCount.toInt tolerance ↔
      ∀ ttl : Nat, 1 ≤ ttl → ttl < hopsCount.toInt →
        (∀ earlier, 1 ≤ earlier → earlier < ttl →
          ¬ CompletesSilence ip route dest timeout tolerance earlier ∧
            ¬ StopsAt ip route dest timeout destination false earlier) →
        (CompletesSilence ip route dest timeout tolerance ttl ↔
          StopsAt ip route dest timeout destination false ttl) := by
  have compared : GivesUpAfter ip route dest timeout hopsCount.toInt tolerance ↔
      ∀ k < hopsCount.toInt.toNat,
        Reaches (fun index => StopsAt ip route dest timeout destination false (index + 1)) k ↔
          Reaches
            (fun index => CompletesSilence ip route dest timeout tolerance (index + 1)) k := by
    apply forall_congr'
    intro k
    rw [lt_tracert_length_iff reached resolved, unreachable,
      ← reaches_succ_index_iff (CompletesSilence ip route dest timeout tolerance)]
    have inside : (k : Int) < hopsCount.toInt ↔ k < hopsCount.toInt.toNat := by omega
    rw [inside]
    exact and_congr_right_iff
  rw [compared, reaches_iff_iff]
  apply Iff.intro
  · intro agree ttl positive inside before
    obtain ⟨k, rfl⟩ := Nat.exists_eq_add_of_le' positive
    exact (agree k (by omega)
      (fun earlier less => (before (earlier + 1) (by omega) (by omega)).2)
      (fun earlier less => (before (earlier + 1) (by omega) (by omega)).1)).symm
  · intro agree k inside reachesActual reachesRequired
    refine (agree (k + 1) (by omega) (by omega) fun earlier positive before => ?_).symm
    obtain ⟨position, rfl⟩ := Nat.exists_eq_add_of_le' positive
    exact ⟨reachesRequired position (by omega), reachesActual position (by omega)⟩

/-- Ten silent hops end the trace unless they are the first hops or the tenth one fails. -/
theorem givesUpAfter_ten_iff (specified : destination ≠ Address.unspecified)
    (elsewhere : ∀ ttl, hopRecord ip route dest timeout ttl ≠ some destination) :
    GivesUpAfter ip route dest timeout hopsCount.toInt 10 ↔
      ∀ ttl : Nat, 1 ≤ ttl → ttl < hopsCount.toInt →
        CompletesSilence ip route dest timeout 10 ttl →
        (∀ earlier, 1 ≤ earlier → earlier < ttl →
          ¬ CompletesSilence ip route dest timeout 10 earlier) →
        (hopRun ip route dest timeout ttl).failure = none ∧
          ∃ earlier, 1 ≤ earlier ∧ earlier < ttl ∧
            hopRecord ip route dest timeout earlier ≠ none := by
  rw [givesUpAfter_iff_agrees reached unreachable resolved]
  apply Iff.intro
  · intro agree ttl positive inside silence first
    have stops := (agree ttl positive inside fun earlier isPositive before =>
      ⟨first earlier isPositive before, fun stop => first earlier isPositive before
        (completesSilence_of_stopsAt specified (elsewhere earlier) stop)⟩).mp silence
    obtain ⟨complete, isDestination | ⟨eleven | ⟨_, answered⟩, _⟩⟩ := stops
    · rw [silence.2 ttl (by omega) (Nat.le_refl _)] at isDestination
      exact absurd isDestination.symm specified
    · exact absurd eleven (not_completesSilence_eleven first)
    · exact ⟨complete, answered⟩
  · intro condition ttl positive inside before
    apply Iff.intro
    · intro silence
      obtain ⟨complete, answered⟩ := condition ttl positive inside silence
        fun earlier isPositive less => (before earlier isPositive less).1
      exact ⟨complete, .inr ⟨.inr ⟨silence, answered⟩, rfl⟩⟩
    · exact completesSilence_of_stopsAt specified (elsewhere ttl)

end Rules

/-- A trace gives up after a given number of silent hops exactly when its own rule and that number
agree on the first stop. For ten silent hops this is a condition on the first ten of them. -/
theorem givesUpAfter_iff (ip : IpType) (route : Route) (dest : String) (hopsCount : Int32)
    (timeout : Int) (composes : List (IcmpCompose ip)) (destination : Address)
    (reached : asyncPing ip route.reachability dest 3 64 (ofMilliseconds 1000) = .ok composes)
    (unreachable : (composes.any fun compose => compose.length ≠ 0) = false)
    (resolved : route.resolve dest = .ok destination)
    (elsewhere : ∀ ttl, hopRecord ip route dest timeout ttl ≠ some destination) :
    (∀ tolerance, GivesUpAfter ip route dest timeout hopsCount.toInt tolerance ↔
      ∀ ttl : Nat, 1 ≤ ttl → ttl < hopsCount.toInt →
        (∀ earlier, 1 ≤ earlier → earlier < ttl →
          ¬ CompletesSilence ip route dest timeout tolerance earlier ∧
            ¬ StopsAt ip route dest timeout destination false earlier) →
        (CompletesSilence ip route dest timeout tolerance ttl ↔
          StopsAt ip route dest timeout destination false ttl)) ∧
    (destination ≠ Address.unspecified →
      (GivesUpAfter ip route dest timeout hopsCount.toInt 10 ↔
        ∀ ttl : Nat, 1 ≤ ttl → ttl < hopsCount.toInt →
          CompletesSilence ip route dest timeout 10 ttl →
          (∀ earlier, 1 ≤ earlier → earlier < ttl →
            ¬ CompletesSilence ip route dest timeout 10 earlier) →
          (hopRun ip route dest timeout ttl).failure = none ∧
            ∃ earlier, 1 ≤ earlier ∧ earlier < ttl ∧
              hopRecord ip route dest timeout earlier ≠ none)) :=
  ⟨givesUpAfter_iff_agrees reached unreachable resolved,
    fun specified => givesUpAfter_ten_iff reached unreachable resolved specified elsewhere⟩

/-- The hop at this distance receives these datagrams, and all other hops receive none. -/
def routeWith (distance : Nat) (arrivals : List (Arrival Datagram)) : Route where
  reachability := deliveringNetwork 7 []
  resolve _ := .ok (.v4 hostAddress)
  hop ttl := deliveringNetwork 7 (if ttl = distance then arrivals else [])

/-- The hop limit of a probe does not change what a delivering network brings. -/
theorem hopRun_delivering {arrivals : List (Arrival Datagram)} (distance ttl : Nat)
    (positive : 1 ≤ ttl) :
    hopRun .useIpv4 (routeWith distance arrivals) "host" 10 ttl =
      pingLoop .useIpv4 (deliveringNetwork 7 (if ttl = distance then arrivals else []))
        (.v4 hostAddress) 10000000 3 0 ⟨0, 0⟩ := by
  have guard : ¬ ((3 : Int) ≤ 0 ∨ (ttl : Int) ≤ 0) := by omega
  simp only [hopRun, routeWith, pingRun, deliveringNetwork, if_neg guard]
  rfl

/-- A hop without arrivals completes its probes and records nothing. -/
theorem hopRecord_silent {arrivals : List (Arrival Datagram)} {distance ttl : Nat}
    (positive : 1 ≤ ttl) (apart : ttl ≠ distance) :
    (hopRun .useIpv4 (routeWith distance arrivals) "host" 10 ttl).failure = none ∧
      hopRecord .useIpv4 (routeWith distance arrivals) "host" 10 ttl = none := by
  have run : hopRun .useIpv4 (routeWith distance arrivals) "host" 10 ttl =
      pingLoop .useIpv4 (deliveringNetwork 7 []) (.v4 hostAddress) 10000000 3 0 ⟨0, 0⟩ := by
    rw [hopRun_delivering distance ttl positive, if_neg apart]
  have network : (routeWith distance arrivals).hop ttl = deliveringNetwork 7 [] := by
    simp only [routeWith, if_neg apart]
  rw [hopRecord, run, network]
  decide +kernel

/-- A hop limit of zero sends no probe. -/
theorem hopRecord_zero (ip : IpType) (route : Route) (dest : String) (timeout : Int) :
    hopRecord ip route dest timeout 0 = none := by
  rw [hopRecord, hopRun, pingRun]
  cases (route.hop 0).openSocket with
  | error what => rfl
  | ok opened => rfl

/-- No hop of this route answers. -/
def silentRoute : Route := routeWith 0 []

/-- Only the first hop of this route answers. -/
def answeredRoute : Route := routeWith 1 [⟨1, exceededDatagram routerAddress 7 0⟩]

theorem silentRoute_record (ttl : Nat) : hopRecord .useIpv4 silentRoute "host" 10 ttl = none := by
  cases ttl with
  | zero => exact hopRecord_zero _ _ _ _
  | succ ttl => exact (hopRecord_silent (Nat.succ_pos ttl) (Nat.succ_ne_zero ttl)).2

theorem answeredRoute_record_one :
    hopRecord .useIpv4 answeredRoute "host" 10 1 = some (.v4 routerAddress) := by
  decide +kernel

theorem answeredRoute_elsewhere (ttl : Nat) :
    hopRecord .useIpv4 answeredRoute "host" 10 ttl ≠ some (.v4 hostAddress) := by
  match ttl with
  | 0 => rw [hopRecord_zero]; simp
  | 1 => rw [answeredRoute_record_one]; decide
  | ttl + 2 =>
      have silent : hopRecord .useIpv4 answeredRoute "host" 10 (ttl + 2) = none :=
        (hopRecord_silent (by omega) (by omega)).2
      rw [silent]
      simp

/-- Behind an answered hop the trace gives up after ten silent hops. -/
theorem givesUpAfter_answered :
    GivesUpAfter .useIpv4 answeredRoute "host" 10 (30 : Int32).toInt 10 := by
  apply ((givesUpAfter_iff .useIpv4 answeredRoute "host" 30 10 _ (.v4 hostAddress)
    (asyncPing_ok_iff.mpr ⟨by decide +kernel, rfl⟩) (by decide +kernel) rfl
    answeredRoute_elsewhere).2 (by decide)).mpr
  intro ttl positive inside silence first
  have answered : hopRecord .useIpv4 answeredRoute "host" 10 1 ≠ none := by
    rw [answeredRoute_record_one]
    simp
  have later : 1 < ttl := by
    by_contra early
    exact answered (silence.2 1 (by omega) positive)
  exact ⟨(hopRecord_silent positive (by omega)).1, 1, Nat.le_refl 1, later, answered⟩

/-- No single number describes both routes: the first hops are allowed one silent hop more. -/
theorem givesUpAfter_varies :
    ¬ ∃ tolerance, ∀ (ip : IpType) (route : Route) (dest : String) (hopsCount : Int32)
      (timeout : Int) (composes : List (IcmpCompose ip)) (destination : Address),
      asyncPing ip route.reachability dest 3 64 (ofMilliseconds 1000) = .ok composes →
      (composes.any fun compose => compose.length ≠ 0) = false →
      route.resolve dest = .ok destination →
      (∀ ttl, hopRecord ip route dest timeout ttl ≠ some destination) →
        GivesUpAfter ip route dest timeout hopsCount.toInt tolerance := by
  intro uniform
  obtain ⟨tolerance, uniform⟩ := uniform
  have silent := uniform .useIpv4 silentRoute "host" 12 10 _ (.v4 hostAddress)
    (asyncPing_ok_iff.mpr ⟨by decide +kernel, rfl⟩) (by decide +kernel) rfl
    (fun ttl => by rw [silentRoute_record]; simp)
  have answered := uniform .useIpv4 answeredRoute "host" 12 10 _ (.v4 hostAddress)
    (asyncPing_ok_iff.mpr ⟨by decide +kernel, rfl⟩) (by decide +kernel) rfl
    answeredRoute_elsewhere
  have silentLength : (tracert .useIpv4 silentRoute "host" (12 : Int32).toInt 10).length = 11 := by
    decide +kernel
  have answeredLength :
      (tracert .useIpv4 answeredRoute "host" (12 : Int32).toInt 10).length = 11 := by
    decide +kernel
  -- The silent route stops behind its eleventh hop, so the number is eleven.
  have many : 10 < tolerance := by
    have probed := (silent 10).mp (by rw [silentLength]; decide)
    by_contra few
    exact probed.2 10 (by decide) (Nat.le_refl 10)
      ⟨by omega, fun k _ _ => silentRoute_record k⟩
  -- The other route stops there as well, although its first hop is not silent.
  have stopped := mt (answered 11).mpr (by rw [answeredLength]; decide)
  simp only [not_and, not_forall, not_not] at stopped
  obtain ⟨ttl, positive, within, enough, none⟩ := stopped (by decide)
  have isSilent := none 1 (by omega) positive
  rw [answeredRoute_record_one] at isSilent
  simp at isSilent

end NetworkTools
