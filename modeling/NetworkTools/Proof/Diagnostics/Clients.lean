/-
This file proves what the concurrent pings of a batch share.
-/

import NetworkTools.Proof.Diagnostics.Batch
import NetworkTools.Proof.Statistics.Clients

namespace NetworkTools
open Library Specification NetworkDiagnostics

variable {diagnostics : NetworkDiagnostics} {task : Nat → PingTask} {addresses : List String}
  {count : Int} {earlier events : List HostEvent} {host last : Host}
  {stretches : Nat → List AttemptStretch}

/-- Two replies that report one datagram show the same source and the same data. -/
theorem sameReport_of_reportsFirst {first second : AttemptStretch}
    (reportsFirst : ∀ reply, first.attempt.result = .ok reply → reply.success = true →
      ReportsFirst last first reply)
    (reportsSecond : ∀ reply, second.attempt.result = .ok reply → reply.success = true →
      ReportsFirst last second reply)
    (together : first.opened = second.opened) : SameReport first second := by
  intro reply other returned success alsoReturned alsoSuccess
  obtain ⟨_, datagram, reports⟩ := (reportsFirst reply returned success).reports
  obtain ⟨_, same, alsoReports⟩ := (reportsSecond other alsoReturned alsoSuccess).reports
  have isSame := reports.arrived
  rw [together, alsoReports.arrived] at isSame
  obtain rfl := Option.some.inj isSame
  exact ⟨reports.srcIp.trans alsoReports.srcIp.symm,
    reports.responseData.trans alsoReports.responseData.symm⟩

/-- Whatever the order of its concurrent events, a batch holds for each address statistics of
arrivals, and attempts that are opened together report one datagram, whomever they ping. -/
theorem batchPing_counts_arrivals (reached : Host.start.run earlier = some host)
    (batch : BatchRuns diagnostics task addresses count host events stretches last) :
    (∀ addr i client, Recorded addresses addr i → task i = .runs client →
      ∃ results message,
        (addr, .tuple (results, message)) ∈ (diagnostics.batchPing task addresses count).items ∧
          CountsArrivals host last (stretches i) results) ∧
    ∀ i addr client j other otherClient, Pings addresses task i addr client →
      Pings addresses task j other otherClient → ∀ first ∈ stretches i, ∀ second ∈ stretches j,
        first.opened = second.opened → SameReport first second := by
  have reports (i : Nat) (addr : String) (client : Nat → EchoCall)
      (pings : Pings addresses task i addr client) :=
    reportsFirst_of_pingRuns reached (batch i addr client pings).2
  constructor
  · intro addr i client recorded isTask
    obtain ⟨made, runs⟩ := batch i addr client ⟨recorded.1, isTask⟩
    have inTurn := inTurn_of_pingRuns runs
    have own := reports i addr client ⟨recorded.1, isTask⟩
    refine ⟨(diagnostics.icmpManager.ping client addr count).1,
      (diagnostics.icmpManager.ping client addr count).2,
      (mem_batchPing_iff addr _).mpr ⟨i, recorded, ?_⟩, inTurn, own,
      received_le_of_reports made inTurn own, times_nonneg_of_reports made own⟩
    rw [isTask]
    rfl
  · intro i addr client j other otherClient pings alsoPings first listed second alsoListed together
    exact sameReport_of_reportsFirst (reports i addr client pings first listed)
      (reports j other otherClient alsoPings second alsoListed) together

/-- The events of the first client end with its exit, and those of the second one begin behind the
entry of the first one. -/
def firstDuring : List HostEvent := sharedEvents.drop 1

def secondDuring : List HostEvent := sharedEvents.drop 2 ++ [.exit 0]

/-- Both clients take the only reply. -/
def sharedStretch : AttemptStretch :=
  ⟨soleStretch, ⟨0, 0, .ok (echoResponse (firstReply hostAddress) 0 0)⟩⟩

def sharedTask : Nat → PingTask := fun _ => .runs fun _ _ _ _ => sharedStretch.attempt

/-- The ping of the silent router counts the reply of the other host. -/
theorem batchPing_counts_arrivals_shared :
    ∃ last results message,
      Host.start.run (usageEvents 0 firstDuring ++ [.exit 1]) = some last ∧
      ("router", .tuple (results, message)) ∈
        (batchPing {} sharedTask ["host", "router"] 1).items ∧
      CountsArrivals Host.start last [sharedStretch] results ∧
      SameReport sharedStretch sharedStretch := by
  have readings : (Host.start.run (usageEvents 0 firstDuring)).map (fun next =>
      (next.sockets.log.length, next.clock)) = some (1, 0) := by
    decide +kernel
  have ends : (Host.start.run (usageEvents 0 firstDuring ++ [.exit 1])).map (fun last =>
      (last.sockets.log.length, last.clock)) = some (1, 0) := by
    decide +kernel
  obtain ⟨first, servesFirst⟩ : ∃ next, Serves "host" 64 5 Host.start 0 firstDuring
      sharedStretch.attempt.result next :=
    serves_of_results rfl (by simp [firstDuring, sharedEvents])
      (by simp [firstDuring, sharedEvents]) (by decide +kernel)
  obtain ⟨second, servesSecond⟩ : ∃ next, Serves "router" 64 5 openHost 1 secondDuring
      sharedStretch.attempt.result next :=
    serves_of_results rfl (by simp [secondDuring, sharedEvents])
      (by simp [secondDuring, sharedEvents]) (by decide +kernel)
  obtain ⟨last, ran, values⟩ := Option.map_eq_some_iff.mp ends
  obtain ⟨length, clock⟩ := Prod.mk.inj values
  have isSecond : second = last := Option.some.inj (servesSecond.ran.symm.trans ran)
  have later := ran
  rw [run_append, servesFirst.ran, Option.bind_some] at later
  rw [servesFirst.ran, Option.map_some] at readings
  obtain ⟨firstLength, firstClock⟩ := Prod.mk.inj (Option.some.inj readings)
  rw [isSecond] at servesSecond
  have host : PingRuns "host" 5 Host.start ([] ++ (usageEvents 0 firstDuring ++ [.exit 1]))
      [sharedStretch] last :=
    .attempt rfl (.served ⟨rfl, firstLength.symm⟩ servesFirst (le_refl 0) (le_of_eq firstClock))
      (.done later)
  have router : PingRuns "router" 5 Host.start ([.enter 0] ++ (usageEvents 1 secondDuring ++ []))
      [sharedStretch] last :=
    .attempt rfl (.served ⟨rfl, length.symm⟩ servesSecond (le_refl 0) (le_of_eq clock)) (.done rfl)
  have batch : BatchRuns {} sharedTask ["host", "router"] 1 Host.start
      (usageEvents 0 firstDuring ++ [.exit 1]) (fun _ => [sharedStretch]) last := by
    rintro i addr client ⟨here, isTask⟩
    obtain rfl := PingTask.runs.inj isTask
    have inside : i < 2 := (List.getElem?_eq_some_iff.mp here).1
    obtain rfl | rfl : i = 0 ∨ i = 1 := by omega
    · obtain rfl := Option.some.inj here
      exact ⟨rfl, host⟩
    · obtain rfl := Option.some.inj here
      exact ⟨rfl, router⟩
  obtain ⟨counts, same⟩ := @batchPing_counts_arrivals {} sharedTask ["host", "router"] 1 []
    (usageEvents 0 firstDuring ++ [.exit 1]) Host.start last (fun _ => [sharedStretch]) rfl batch
  have recorded : Recorded ["host", "router"] "router" 1 := by
    refine ⟨rfl, fun j later => ?_⟩
    rw [List.getElem?_eq_none later]
    simp
  obtain ⟨results, message, present, arrivals⟩ := counts "router" 1 _ recorded rfl
  exact ⟨last, results, message, ran, present, arrivals,
    same 0 "host" _ 1 "router" _ ⟨rfl, rfl⟩ ⟨rfl, rfl⟩ _ List.mem_cons_self _ List.mem_cons_self
      rfl⟩

end NetworkTools
