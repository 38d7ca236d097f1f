/-
This file proves that the statistics of a ping count the datagrams that its clients meet.
-/

import NetworkTools.Proof.Client.Usage
import NetworkTools.Proof.Statistics.Manager

namespace NetworkTools
open Library Specification IcmpManager

variable {manager : IcmpManager} {addr : String} {timeout : ℚ} {host next last : Host}
  {earlier events : List HostEvent} {stretch : AttemptStretch} {stretches : List AttemptStretch}

section Attempts

theorem run_of_makes (makes : Makes addr timeout host events stretch next) :
    host.run events = some next := by
  cases makes with
  | refused => rfl
  | served covers serves => exact serves.ran

theorem covers_of_makes (makes : Makes addr timeout host events stretch next) :
    Covers stretch.toStretch host next := by
  cases makes with
  | refused covers => exact covers
  | served covers => exact covers

/-- A success of one attempt. -/
theorem reportsFirst_of_makes (reached : Host.start.run earlier = some host)
    (makes : Makes addr timeout host events stretch next) {reply : EchoResult}
    (returned : stretch.attempt.result = .ok reply) (success : reply.success = true) :
    ReportsFirst next stretch reply := by
  cases makes with
  | refused covers raises =>
      rw [raises] at returned
      cases returned
  | served covers serves starts ends =>
      rw [returned] at serves
      have reports := reportsArrival_of_serves reached serves success
      have measured := responseTime_le_of_serves serves
      rw [← covers.opened] at reports
      refine ⟨?_, reports, measured.trans ?_⟩
      · obtain ⟨_, _, reportsDatagram⟩ := reports
        rw [covers.closed]
        exact (List.getElem?_eq_some_iff.mp reportsDatagram.arrived).1
      · exact mul_le_mul_of_nonneg_right (sub_le_sub ends starts) (by norm_num)

end Attempts

section Runs

theorem reportsFirst_grows {reply : EchoResult} (reports : ReportsFirst next stretch reply)
    (grows : next.sockets.log <+: last.sockets.log) : ReportsFirst last stretch reply :=
  ⟨reports.arrived, reportsArrival_grows reports.reports grows, reports.responseTime_le⟩

theorem run_of_pingRuns (runs : PingRuns addr timeout host events stretches last) :
    host.run events = some last := by
  induction runs with
  | done ran => exact ran
  | attempt paused makes _ ih =>
      rw [run_append, paused, Option.bind_some, run_append, run_of_makes makes]
      exact ih

theorem inTurn_of_pingRuns (runs : PingRuns addr timeout host events stretches last) :
    Stretch.InTurn host.sockets.log.length (stretches.map AttemptStretch.toStretch)
      last.sockets.log.length := by
  induction runs with
  | done ran => exact (log_prefix_of_run ran).length_le
  | attempt paused makes _ ih =>
      have covers := covers_of_makes makes
      rw [List.map_cons]
      refine ⟨?_, ?_⟩
      · rw [covers.opened]
        exact (log_prefix_of_run paused).length_le
      · rw [covers.closed]
        exact ih

theorem reportsFirst_of_pingRuns (reached : Host.start.run earlier = some host)
    (runs : PingRuns addr timeout host events stretches last) :
    ∀ stretch ∈ stretches, ∀ reply, stretch.attempt.result = .ok reply →
      reply.success = true → ReportsFirst last stretch reply := by
  induction runs generalizing earlier with
  | done => simp
  | attempt paused makes rest ih =>
      have opened := reached_append reached paused
      have closed := reached_append opened (run_of_makes makes)
      intro stretch present reply returned success
      rcases List.mem_cons.mp present with rfl | later
      · exact reportsFirst_grows (reportsFirst_of_makes opened makes returned success)
          (log_prefix_of_run (run_of_pingRuns rest))
      · exact ih closed stretch later reply returned success

end Runs

section Statistics

variable {client : Nat → EchoCall} {count : Int}

/-- The last lines of a ping leave the count and the times alone. -/
theorem finishStatistics_counts (state : PingState) :
    (finishStatistics count state).packetsReceived = state.results.packetsReceived ∧
      (finishStatistics count state).rttTimes = state.results.rttTimes := by
  unfold finishStatistics
  split <;> exact ⟨rfl, rfl⟩

theorem successRtt_eq_some_iff {attempt : Attempt} {time : ℚ} :
    successRtt attempt = some time ↔
      ∃ reply, attempt.result = .ok reply ∧ reply.success = true ∧ attemptRtt attempt = time := by
  unfold successRtt
  cases attempt.result with
  | error e => simp
  | ok reply => simp

/-- Each success takes a datagram of its own. -/
theorem received_le_of_reports (made : attempts manager client addr count =
      stretches.map AttemptStretch.attempt)
    (inTurn : Stretch.InTurn host.sockets.log.length (stretches.map AttemptStretch.toStretch)
      last.sockets.log.length)
    (reports : ∀ stretch ∈ stretches, ∀ reply, stretch.attempt.result = .ok reply →
      reply.success = true → ReportsFirst last stretch reply) :
    host.sockets.log.length + (manager.ping client addr count).1.packetsReceived ≤
      last.sockets.log.length := by
  have tallied := pingState_tallied manager client addr count
  have received := (@finishStatistics_counts count (manager.pingState client addr count)).1
  rw [made] at tallied
  have filled : (successRtts (stretches.map AttemptStretch.attempt)).length ≤
      (stretches.map AttemptStretch.toStretch).countP
        fun stretch => stretch.opened < stretch.closed := by
    rw [successRtts, List.length_filterMap_eq_countP, List.countP_map, List.countP_map]
    apply List.countP_mono_left
    intro stretch present isSuccess
    obtain ⟨time, isTime⟩ := Option.isSome_iff_exists.mp isSuccess
    obtain ⟨reply, returned, success, _⟩ := successRtt_eq_some_iff.mp isTime
    exact decide_eq_true (reports stretch present reply returned success).arrived
  have counted := inTurn.count_le
  rw [IcmpManager.ping, received, tallied.received]
  omega

/-- The manager measures at least the time that the client measures. -/
theorem times_nonneg_of_reports (made : attempts manager client addr count =
      stretches.map AttemptStretch.attempt)
    (reports : ∀ stretch ∈ stretches, ∀ reply, stretch.attempt.result = .ok reply →
      reply.success = true → ReportsFirst last stretch reply) :
    ∀ time ∈ (manager.ping client addr count).1.rttTimes, 0 ≤ time := by
  have tallied := pingState_tallied manager client addr count
  have times := (@finishStatistics_counts count (manager.pingState client addr count)).2
  rw [IcmpManager.ping, times, tallied.rttTimes, made]
  intro time present
  obtain ⟨attempt, isMade, isTime⟩ := List.mem_filterMap.mp present
  obtain ⟨stretch, listed, rfl⟩ := List.mem_map.mp isMade
  obtain ⟨reply, returned, success, rfl⟩ := successRtt_eq_some_iff.mp isTime
  have first := reports stretch listed reply returned success
  obtain ⟨_, _, reportsDatagram⟩ := first.reports
  exact reportsDatagram.notNegative.trans first.responseTime_le

/-- In each run of a host a ping counts the datagrams that arrive while its clients are open, the
first one of each client and no datagram twice, and none of its times is negative. -/
theorem ping_counts_arrivals (reached : Host.start.run earlier = some host)
    (runs : PingRuns addr manager.timeout host events stretches last)
    (made : attempts manager client addr count = stretches.map AttemptStretch.attempt) :
    CountsArrivals host last stretches (manager.ping client addr count).1 := by
  have inTurn := inTurn_of_pingRuns runs
  have reports := reportsFirst_of_pingRuns reached runs
  exact ⟨inTurn, reports, received_le_of_reports made inTurn reports,
    times_nonneg_of_reports made reports⟩

/-- A client sends its request, and the host replies after ten milliseconds. -/
def answeredEvents : List HostEvent :=
  [.call 0 "host" 64 (some 5), .resolved 0 (.ok [hostAddress]) (.ok ()) (Vector.replicate 8 0),
    .sent 0 (.ok ()), .pass (1 / 100), .arrive (firstReply hostAddress), .received 0]

def answeredReply : EchoResult := echoResponse (firstReply hostAddress) 0 (1 / 100)

/-- The manager cannot open the client of its second attempt. -/
def answeredStretches : List AttemptStretch :=
  [⟨soleStretch, ⟨0, 1 / 100, .ok answeredReply⟩⟩,
    ⟨⟨1, 1, le_refl 1⟩, ⟨1 / 100, 1 / 100, .error "Operation not permitted"⟩⟩]

/-- An answer and an exception count one arrival. -/
theorem ping_counts_arrivals_answered :
    ∃ last, Host.start.run (usageEvents 0 answeredEvents) = some last ∧
      CountsArrivals Host.start last answeredStretches
        (IcmpManager.ping {} (fun i _ _ _ => ((answeredStretches[i]?).map
          AttemptStretch.attempt).getD ⟨0, 0, .error ""⟩) "host" 2).1 := by
  have results : (Host.start.run (usageEvents 0 answeredEvents)).map (fun last =>
      (last.client 0).history.map fun record => record.result.toOption) =
        some [some answeredReply] := by
    decide +kernel
  have readings : (Host.start.run (usageEvents 0 answeredEvents)).map (fun last =>
      (last.sockets.log.length, last.clock)) = some (1, 1 / 100) := by
    decide +kernel
  obtain ⟨last, serves⟩ : ∃ last,
      Serves "host" 64 5 Host.start 0 answeredEvents (.ok answeredReply) last :=
    serves_of_results rfl (by simp [answeredEvents]) (by simp [answeredEvents]) results
  rw [serves.ran, Option.map_some] at readings
  obtain ⟨length, clock⟩ := Prod.mk.inj (Option.some.inj readings)
  have runs : PingRuns "host" 5 Host.start ([] ++ (usageEvents 0 answeredEvents ++
      ([] ++ ([] ++ [])))) answeredStretches last := by
    apply PingRuns.attempt rfl (.served ⟨rfl, length.symm⟩ serves (le_refl 0) (le_of_eq clock))
    apply PingRuns.attempt rfl (.refused ⟨length.symm, length.symm⟩ rfl)
    exact .done rfl
  refine ⟨last, serves.ran, ?_⟩
  exact @ping_counts_arrivals {} "host" Host.start last [] _ answeredStretches _ 2 rfl runs rfl

end Statistics

end NetworkTools
