/-
This file proves when the ping statistics of the manager match the outcomes of its attempts.
-/

import NetworkTools.Specification.Manager

namespace NetworkTools
open Library Specification IcmpManager

/-- The running statistics over these successful times. -/
structure Tallied (state : PingState) (times : List ℚ) : Prop where
  received : state.results.packetsReceived = times.length
  rttTimes : state.results.rttTimes = times
  total : state.totalRtt = times.sum
  rttMin : state.results.rttMin = times.min?
  rttMax : state.results.rttMax = times.foldl max 0
  packetLoss : state.results.packetLoss = 0

section Rounds

variable {state : PingState} {times : List ℚ}

theorem min?_concat (times : List ℚ) (rtt : ℚ) :
    (times ++ [rtt]).min? =
      match times.min? with
      | none => some rtt
      | some rttMin => if rtt < rttMin then some rtt else some rttMin := by
  cases times with
  | nil => rfl
  | cons first rest =>
      rw [List.cons_append, List.min?_cons', List.min?_cons', List.foldl_append]
      simp only [List.foldl_cons, List.foldl_nil, min_def, ← not_lt, ite_not]
      split <;> rfl

/-- A success records its time, and any other outcome changes the message only. -/
theorem pingRound_cases (addr : String) (state : PingState) (attempt : Attempt) :
    (successRtt attempt = none ∧ ∃ message, pingRound addr state attempt = { state with message }) ∨
      ∃ rtt message, successRtt attempt = some rtt ∧
        pingRound addr state attempt =
          ⟨recordRtt state.results rtt, state.totalRtt + rtt, message⟩ := by
  unfold pingRound successRtt
  cases attempt.result with
  | error e => exact .inl ⟨rfl, _, rfl⟩
  | ok reply =>
      cases success : reply.success with
      | false => exact .inl ⟨by simp only [success]; rfl, _, by simp only [success]; rfl⟩
      | true => exact .inr ⟨_, _, by simp only [success]; rfl, by simp only [success]; rfl⟩

theorem Tallied.record (tallied : Tallied state times) (rtt : ℚ) (message : String) :
    Tallied ⟨recordRtt state.results rtt, state.totalRtt + rtt, message⟩ (times ++ [rtt]) where
  received := by simp only [recordRtt, tallied.received, List.length_append, List.length_singleton]
  rttTimes := by simp only [recordRtt, tallied.rttTimes]
  total := by simp only [tallied.total, List.sum_append, List.sum_singleton]
  rttMin := by
    simp only [recordRtt, tallied.rttMin]
    exact (min?_concat times rtt).symm
  rttMax := by
    simp only [recordRtt, tallied.rttMax, List.foldl_append, List.foldl_cons, List.foldl_nil,
      max_def', ← not_lt, ite_not, gt_iff_lt]
  packetLoss := tallied.packetLoss

theorem Tallied.run (tallied : Tallied state times) (addr : String) (attempts : List Attempt) :
    Tallied (attempts.foldl (pingRound addr) state) (times ++ successRtts attempts) := by
  induction attempts generalizing state times with
  | nil =>
      rw [successRtts, List.filterMap_nil, List.append_nil]
      exact tallied
  | cons attempt rest ih =>
      rw [List.foldl_cons, successRtts]
      rcases pingRound_cases addr state attempt with
        ⟨isNone, message, same⟩ | ⟨rtt, message, isSome, recorded⟩
      · rw [List.filterMap_cons_none isNone, same]
        exact ih ⟨tallied.received, tallied.rttTimes, tallied.total, tallied.rttMin,
          tallied.rttMax, tallied.packetLoss⟩
      · rw [List.filterMap_cons_some isSome, recorded, List.append_cons]
        exact ih (tallied.record rtt message)

end Rounds

section Statistics

variable (manager : IcmpManager) (client : Nat → EchoCall) (addr : String) (count : Int)

theorem pingState_tallied :
    Tallied (manager.pingState client addr count)
      (successRtts (attempts manager client addr count)) := by
  have start : Tallied
      { results :=
          { target := addr, packetsSent := count, message := pingHeader addr count },
        message := pingHeader addr count } [] :=
    ⟨rfl, rfl, rfl, rfl, rfl, rfl⟩
  have run := start.run addr (attempts manager client addr count)
  rw [attempts, List.foldl_map] at run
  exact run

/-- A success sets the average and the loss. -/
theorem Tallied.finished {state : PingState} {times : List ℚ} (tallied : Tallied state times)
    (nonempty : times ≠ []) :
    finishStatistics count state =
      { state.results with
        rttAvg := state.totalRtt / state.results.packetsReceived
        packetLoss := (1 - state.results.packetsReceived / count) * 100 } := by
  have received : 0 < state.results.packetsReceived := by
    rw [tallied.received]
    exact List.length_pos_iff.mpr nonempty
  rw [finishStatistics, if_pos received]

/-- Without a success the statistics keep their start values. -/
theorem Tallied.unfinished {state : PingState} (tallied : Tallied state []) :
    finishStatistics count state = state.results := by
  have unreceived : ¬ 0 < state.results.packetsReceived := by
    rw [tallied.received]
    exact Nat.lt_irrefl 0
  rw [finishStatistics, if_neg unreceived]

/-- The extremes of non-negative times are their bounds. -/
theorem Tallied.matchesTimes {state : PingState} {times : List ℚ} (tallied : Tallied state times)
    (nonempty : times ≠ []) (nonneg : ∀ time ∈ times, 0 ≤ time) :
    ∃ rttMin, MatchesTimes times (finishStatistics count state) rttMin := by
  obtain ⟨rttMin, isMin⟩ := Option.isSome_iff_exists.mp (List.isSome_min?_of_ne_nil nonempty)
  obtain ⟨rttMax, isMax⟩ := Option.isSome_iff_exists.mp (List.isSome_max?_of_ne_nil nonempty)
  obtain ⟨minMem, minLe⟩ := List.min?_eq_some_iff.mp isMin
  obtain ⟨maxMem, leMax⟩ := List.max?_eq_some_iff.mp isMax
  have maximum : state.results.rttMax = rttMax := by
    rw [tallied.rttMax, List.foldl_max, isMax, Option.getD_some, max_eq_right (nonneg _ maxMem)]
  have average : state.totalRtt / state.results.packetsReceived = Statistics.mean times := by
    rw [Statistics.mean, tallied.total, tallied.received]
  refine ⟨rttMin, ?_⟩
  rw [tallied.finished count nonempty, average]
  exact
    { isMin := tallied.rttMin.trans isMin
      least := ⟨minMem, minLe⟩
      greatest := ⟨maximum ▸ maxMem, maximum ▸ leMax⟩
      average := rfl
      min_le := Statistics.le_mean nonempty minLe
      le_max := Statistics.mean_le nonempty (maximum ▸ leMax) }

/-- An attempt succeeds if it has a time. -/
theorem successRtts_ne_nil_iff (attempts : List Attempt) :
    successRtts attempts ≠ [] ↔ ∃ attempt ∈ attempts, (successRtt attempt).isSome := by
  rw [successRtts, ne_eq, List.filterMap_eq_nil_iff]
  push Not
  simp only [Option.isSome_iff_ne_none]

variable {manager client addr count}

/-- The statistics match the outcomes exactly if an attempt succeeds. Without a success the loss
keeps its start value. -/
theorem ping_statistics_iff (positive : 1 ≤ count)
    (nonneg : ∀ time ∈ successRtts (attempts manager client addr count), 0 ≤ time) :
    MatchesOutcomes count (attempts manager client addr count)
        (manager.ping client addr count).1 ↔
      ∃ attempt ∈ attempts manager client addr count, (successRtt attempt).isSome := by
  rw [← successRtts_ne_nil_iff]
  have tallied := pingState_tallied manager client addr count
  have counted : (count : ℚ) ≠ 0 := Int.cast_ne_zero.mpr (by omega)
  apply Iff.intro
  · intro outcomes none
    rw [none] at tallied
    have loss := outcomes.loss
    rw [IcmpManager.ping, tallied.unfinished, tallied.packetLoss, tallied.received,
      List.length_nil, Nat.cast_zero, sub_zero, mul_div_cancel_right₀ _ counted] at loss
    exact absurd loss (by norm_num)
  · intro some
    rw [IcmpManager.ping, tallied.finished count some]
    constructor
    case received =>
      rw [← List.length_filterMap_eq_countP]
      exact tallied.received
    case times => exact tallied.rttTimes
    case loss => field_simp
    case rtt =>
      intro _
      rw [← tallied.finished count some]
      exact tallied.matchesTimes count some nonneg

/-- The client answers after ten milliseconds. -/
def answeringCall : EchoCall :=
  fun _ _ _ => ⟨0, 1 / 100, .ok ⟨"203.0.113.9", true, 10, some []⟩⟩

/-- The client waits for its whole timeout. -/
def silentCall : EchoCall := fun _ _ timeout => ⟨0, timeout, .ok .failure⟩

/-- An answer and an exception. -/
theorem ping_statistics_answered :
    MatchesOutcomes 2
      (attempts {} (fun i => if i = 0 then answeringCall else fun _ _ _ =>
        ⟨0, 0, .error "Operation not permitted"⟩) "example.com" 2)
      (IcmpManager.ping {} (fun i => if i = 0 then answeringCall else fun _ _ _ =>
        ⟨0, 0, .error "Operation not permitted"⟩) "example.com" 2).1 :=
  (ping_statistics_iff (by decide) (by decide +kernel)).mpr (by decide +kernel)

/-- A ping without an answer loses no packet. -/
theorem ping_statistics_silent :
    (IcmpManager.ping {} (fun _ => silentCall) "example.com" 1).1.packetsReceived = 0 ∧
      (IcmpManager.ping {} (fun _ => silentCall) "example.com" 1).1.packetLoss = 0 ∧
      ¬ MatchesOutcomes 1 (attempts {} (fun _ => silentCall) "example.com" 1)
        (IcmpManager.ping {} (fun _ => silentCall) "example.com" 1).1 := by
  have received :
      (IcmpManager.ping {} (fun _ => silentCall) "example.com" 1).1.packetsReceived = 0 := rfl
  have loss : (IcmpManager.ping {} (fun _ => silentCall) "example.com" 1).1.packetLoss = 0 := rfl
  refine ⟨received, loss, fun outcomes => ?_⟩
  have required := outcomes.loss
  rw [loss, received] at required
  exact absurd required (by norm_num)

end Statistics

end NetworkTools
