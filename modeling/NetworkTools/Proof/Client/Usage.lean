/-
This file proves what a client reports that its host opens for one call.
-/

import NetworkTools.Proof.Client.Lockstep
import NetworkTools.Proof.Client.Sequence
import NetworkTools.Specification.Usage

namespace NetworkTools
open Library Specification IcmpManager

variable {earlier events during : List HostEvent} {event : HostEvent} {host next last : Host}
  {number : Nat} {pending : List (List UInt8)} {since : ℚ}

section Growth

/-- The log only grows. -/
theorem log_prefix_of_run (ran : host.run events = some last) :
    host.sockets.log <+: last.sockets.log := by
  rw [run_eq_runSteps] at ran
  apply runSteps_invariant (fun later => host.sockets.log <+: later.sockets.log) (fun _ => True) _
    (List.prefix_refl _) (fun _ _ => trivial) ran
  intro before event next _ grows stepped
  cases step_eq_some_iff.mp stepped with
  | arrived datagram => exact grows.trans (List.prefix_append _ _)
  | _ => exact grows

theorem reached_append (reached : Host.start.run earlier = some host)
    (ran : host.run events = some last) : Host.start.run (earlier ++ events) = some last := by
  rw [run_append, reached]
  exact ran

theorem reportsArrival_grows {log longer : List (List UInt8)} {position : Nat}
    {reply : EchoResult} (reports : ReportsArrival log position reply) (grows : log <+: longer) :
    ReportsArrival longer position reply := by
  obtain ⟨record, datagram, reportsDatagram⟩ := reports
  refine ⟨record, datagram, { reportsDatagram with arrived := ?_ }⟩
  have inside := (List.getElem?_eq_some_iff.mp reportsDatagram.arrived).1
  rw [List.prefix_iff_getElem?.mp grows position inside, ← List.getElem?_eq_getElem,
    reportsDatagram.arrived]

/-- A successful first call reports the first datagram behind the opening. -/
theorem reportsArrival_of_returns {reply : EchoResult}
    (reached : Host.start.run earlier = some host)
    (isOpen : host.sockets.queue number = some pending)
    (returns : Returns host events number reply) (ran : host.run events = some last)
    (success : reply.success = true) :
    ReportsArrival last.sockets.log (host.sockets.position pending) reply := by
  obtain ⟨k, ended, record, ends, stays, history, result⟩ := returns
  have accounting : Accounting ended := by
    have start : Accounting Host.start := ⟨by simp [Host.start], fun _ => trivial⟩
    have wholeRun := reached_append reached ends
    rw [run_eq_runSteps] at wholeRun
    exact runSteps_invariant Accounting (fun _ => True)
      (fun _ _ _ _ accounting => accounting.step) start (fun _ _ => trivial) wholeRun
  have reported := (accounting.records number record (by rw [history]; simp)).reports
  rw [Reports, result] at reported
  obtain failed | ⟨_, position, datagram, reports⟩ := reported
  · rw [failed] at success
    cases success
  · -- The only datagram of the call is the first one that waits for the client.
    obtain ⟨drawn, isDrawn⟩ := drawnSince_eq_range isOpen stays ends
    have first : drawnBy record = some position := by rw [drawnBy, reports.received]; rfl
    rw [drawnSince, callsSince, history, List.drop_left, List.filterMap_cons_some first,
      List.filterMap_nil] at isDrawn
    obtain ⟨rfl, _⟩ := List.range'_eq_cons_iff.mp isDrawn.symm
    have rest : ended.run (events.drop k) = some last := by
      rw [← List.take_append_drop k events, run_append, ends] at ran
      exact ran
    exact reportsArrival_grows ⟨record, datagram, reports⟩ (log_prefix_of_run rest)

end Growth

section Times

/-- A call of this phase does not start before this time. -/
def Phase.StartsFrom (since : ℚ) : Phase → Prop
  | .idle => True
  | .resolving _ _ _ => True
  | .sending _ _ startTime => since ≤ startTime
  | .waiting _ _ startTime => since ≤ startTime

/-- No call of the client takes longer than the time that has passed since then. -/
structure Timed (since : ℚ) (clock : ℚ) (client : IcmpClient) : Prop where
  begun : since ≤ clock
  starts : client.phase.StartsFrom since
  records : ∀ record ∈ client.history, ∀ reply, record.result = .ok reply →
    reply.responseTime ≤ (clock - since) * 1000

variable {clock : ℚ} {client : IcmpClient}

theorem Timed.finish (timed : Timed since clock client) (sent : Option EchoRequest)
    (received lost : Option Nat) {result : Except CallError EchoResult}
    (within : ∀ reply, result = .ok reply → reply.responseTime ≤ (clock - since) * 1000) :
    Timed since clock (client.finish sent received lost result) where
  begun := timed.begun
  starts := trivial
  records record present := by
    rcases List.mem_append.mp present with old | new
    · exact timed.records record old
    · rw [List.mem_singleton.mp new]
      exact within

theorem Timed.fail (timed : Timed since clock client) (sent : Option EchoRequest)
    (lost : Option Nat) : Timed since clock (client.finish sent none lost (.ok .failure)) := by
  apply timed.finish
  intro reply isFailure
  obtain rfl := Except.ok.inj isFailure
  exact mul_nonneg (sub_nonneg.mpr timed.begun) (by norm_num)

theorem Timed.raise (timed : Timed since clock client) (sent : Option EchoRequest)
    (lost : Option Nat) (e : CallError) :
    Timed since clock (client.finish sent none lost (.error e)) := by
  apply timed.finish
  simp

theorem Timed.endWait (timed : Timed since clock client) {deadline : Option ℚ} {done : Bool}
    {result : Except CallError EchoResult} (ends : EndsWait host number deadline done event result)
    (sent : Option EchoRequest) (lost : Option Nat) :
    Timed since clock (client.finish sent none lost result) := by
  cases ends with
  | expired => exact timed.fail sent lost
  | cancelled => exact timed.raise sent lost .cancelled

theorem Timed.setPhase (timed : Timed since clock client) {phase : Phase}
    (starts : phase.StartsFrom since) : Timed since clock { client with phase := phase } :=
  ⟨timed.begun, starts, timed.records⟩

theorem Timed.prepare (timed : Timed since clock client) (destIp : AddressV4)
    (timestamp : Vector UInt8 8) (timeout : Option ℚ) :
    Timed since clock (client.prepare destIp timestamp timeout clock) := by
  have counted : Timed since clock { client with sequence := client.sequence + 1 } :=
    ⟨timed.begun, timed.starts, timed.records⟩
  unfold IcmpClient.prepare
  simp only
  split
  · exact counted.fail none none
  · split
    · exact counted.fail none none
    · exact counted.setPhase timed.begun

/-- The response is timed from the start of its call. -/
theorem responseTime_le (datagram : List UInt8) {startTime : ℚ} (begun : since ≤ clock)
    (starts : since ≤ startTime) :
    (echoResponse datagram startTime clock).responseTime ≤ (clock - since) * 1000 := by
  by_cases reaches : 16 ≤ datagram.length
  · rw [echoResponse_of_reaches reaches]
    exact mul_le_mul_of_nonneg_right (sub_le_sub_left starts clock) (by norm_num)
  · rw [echoResponse_of_short reaches]
    exact mul_nonneg (sub_nonneg.mpr begun) (by norm_num)

theorem Timed.step (timed : Timed since host.clock (host.client number))
    (stepped : host.step event = some next) : Timed since next.clock (next.client number) := by
  cases hidden : event.concerns number with
  | false =>
      obtain ⟨clock, _, _, client⟩ := ClientView.mk.inj (viewOf_of_hidden hidden stepped)
      rw [clock, client]
      exact timed
  | true =>
      have own {other : Nat} : event.client? = some other → other = number := eq_of_concerns hidden
      cases step_eq_some_iff.mp stepped with
      | entered =>
          obtain rfl := own rfl
          rw [setClient_self]
          exact ⟨timed.begun, timed.starts, timed.records⟩
      | exited => exact timed
      | raised =>
          obtain rfl := own rfl
          rw [setClient_self]
          exact timed.raise none none _
      | called =>
          obtain rfl := own rfl
          rw [setClient_self]
          exact timed.setPhase trivial
      | @resolved _ _ _ timeout _ _ _ destIp _ timestamp =>
          obtain rfl := own rfl
          rw [setClient_self]
          exact timed.prepare destIp timestamp timeout
      | unresolved =>
          obtain rfl := own rfl
          rw [setClient_self]
          exact timed.fail none none
      | sent sending =>
          obtain rfl := own rfl
          have starts := timed.starts
          rw [sending] at starts
          rw [setClient_self]
          exact timed.setPhase starts
      | unsent =>
          obtain rfl := own rfl
          rw [setClient_self]
          exact timed.fail none none
      | received waiting =>
          obtain rfl := own rfl
          have starts := timed.starts
          rw [waiting] at starts
          rw [setClient_self]
          apply timed.finish
          intro reply isResponse
          obtain rfl := Except.ok.inj isResponse
          exact responseTime_le _ timed.begun starts
      | failed =>
          obtain rfl := own rfl
          rw [setClient_self]
          exact timed.fail _ none
      | unanswered _ ends =>
          obtain rfl := own ends.client?_eq
          rw [setClient_self]
          exact timed.endWait ends _ none
      | lost _ _ ends =>
          obtain rfl := own ends.client?_eq
          rw [setClient_self]
          exact timed.endWait ends _ _
      | unresolvedCancelled =>
          obtain rfl := own rfl
          rw [setClient_self]
          exact timed.raise none none _
      | sendCancelled =>
          obtain rfl := own rfl
          rw [setClient_self]
          exact timed.raise _ none _
      | arrived => exact timed
      | passed nonneg =>
          have later := le_add_of_nonneg_right (a := host.clock) nonneg
          refine ⟨timed.begun.trans later, timed.starts, fun record present reply returned => ?_⟩
          apply (timed.records record present reply returned).trans
          exact mul_le_mul_of_nonneg_right (sub_le_sub_right later since) (by norm_num)

theorem Timed.run (timed : Timed since host.clock (host.client number))
    (ran : host.run events = some last) : Timed since last.clock (last.client number) := by
  rw [run_eq_runSteps] at ran
  exact runSteps_invariant (fun host => Timed since host.clock (host.client number))
    (fun _ => True) (fun _ _ _ _ timed => timed.step) timed (fun _ _ => trivial) ran

end Times

section Uses

variable {addr : String} {ttl : Int} {timeout : ℚ} {result : Except String EchoResult}
  {reply : EchoResult}

/-- The state behind the opening of a new client and the run from there on. -/
structure OpensFor (host : Host) (number : Nat) (during : List HostEvent) (next opened : Host) :
    Prop where
  entered : host.step (.enter number) = some opened
  fresh : FreshlyOpened opened number
  clock : opened.clock = host.clock
  log : opened.sockets.log = host.sockets.log
  ran : opened.run (during ++ [.exit number]) = some next

theorem opensFor_of_serves (serves : Serves addr ttl timeout host number during result next) :
    ∃ opened, OpensFor host number during next opened := by
  have ran := serves.ran
  rw [usageEvents, Host.run] at ran
  obtain ⟨opened, stepped, rest⟩ := Option.bind_eq_some_iff.mp ran
  obtain rfl := eq_of_enter stepped
  refine ⟨_, stepped, ⟨?_, ?_⟩, rfl, rfl, rest⟩
  · exact Function.update_self ..
  · rw [setClient_self, serves.fresh]

/-- The exit leaves the clients as they are. -/
theorem client_of_exit (ran : host.run [.exit number] = some next) :
    next.client = host.client := by
  rw [Host.run] at ran
  obtain ⟨exited, stepped, isNext⟩ := Option.bind_eq_some_iff.mp ran
  obtain rfl := Option.some.inj isNext
  rw [eq_of_exit stepped]

theorem OpensFor.returns {opened : Host} (opens : OpensFor host number during next opened)
    (serves : Serves addr ttl timeout host number during (.ok reply) next) :
    Returns opened (during ++ [.exit number]) number reply := by
  obtain ⟨record, history, result⟩ := serves.returns
  have ran := opens.ran
  rw [run_append] at ran
  obtain ⟨ended, ends, exits⟩ := Option.bind_eq_some_iff.mp ran
  refine ⟨during.length, ended, record, ?_, ?_, ?_, result⟩
  · rw [List.take_left]
    exact ends
  · rw [List.take_left]
    exact serves.stays
  · rw [← client_of_exit exits, history, opens.fresh.client]
    rfl

/-- A success of a new client reports the first datagram that arrives while it is open. -/
theorem reportsArrival_of_serves (reached : Host.start.run earlier = some host)
    (serves : Serves addr ttl timeout host number during (.ok reply) next)
    (success : reply.success = true) :
    ReportsArrival next.sockets.log host.sockets.log.length reply := by
  obtain ⟨opened, opens⟩ := opensFor_of_serves serves
  have entered : host.run [.enter number] = some opened := by
    rw [run_cons opens.entered]
    rfl
  have reports := reportsArrival_of_returns (reached_append reached entered) opens.fresh.isOpen
    (opens.returns serves) opens.ran success
  rw [Broadcast.position, List.length_nil, Nat.sub_zero, opens.log] at reports
  exact reports

theorem responseTime_le_of_serves
    (serves : Serves addr ttl timeout host number during (.ok reply) next) :
    reply.responseTime ≤ (next.clock - host.clock) * 1000 := by
  have start : Timed host.clock host.clock (host.client number) := by
    rw [serves.fresh]
    exact ⟨le_refl _, trivial, by simp⟩
  obtain ⟨record, history, result⟩ := serves.returns
  exact (start.run serves.ran).records record (by rw [history]; simp) reply result

/-- One datagram arrives. -/
def soleStretch : Stretch := ⟨0, 1, Nat.zero_le 1⟩

/-- What the history of the client shows decides its use. -/
theorem serves_of_results (fresh : host.client number = {})
    (calls : .call number addr ttl (some timeout) ∈ during)
    (stays : ∀ event ∈ during, event ≠ .exit number)
    (results : (host.run (usageEvents number during)).map (fun next =>
      (next.client number).history.map fun record => record.result.toOption) =
        some [some reply]) :
    ∃ next, Serves addr ttl timeout host number during (.ok reply) next := by
  obtain ⟨next, ran, history⟩ := Option.map_eq_some_iff.mp results
  obtain ⟨record, isHistory, result⟩ := List.map_eq_singleton_iff.mp history
  refine ⟨next, fresh, calls, stays, ran, record, isHistory, ?_⟩
  cases returned : record.result with
  | error e =>
      rw [returned] at result
      cases result
  | ok value =>
      rw [returned] at result
      rw [Option.some.inj result]
      rfl

end Uses
end NetworkTools
