/-
This file proves that each hop of a trace shows the source of a datagram of its own.
-/

import NetworkTools.Library.Crediting
import NetworkTools.Proof.Trace.Clients
import NetworkTools.Proof.Trace.Manager

namespace NetworkTools
open Library Specification IcmpManager

variable {manager : IcmpManager} {addr : String} {timeout : ℚ} {host next last : Host}
  {earlier events : List HostEvent} {stretch : HopStretch} {stretches : List HopStretch}

section Probes

variable {ttl : Int}

/-- A successful probe reports a datagram that arrives during its hop. -/
theorem reportsArrival_of_probes (reached : Host.start.run earlier = some host)
    (probes : Probes addr ttl timeout host events stretch next) {i : Nat} (inside : i < 3)
    (success : (stretch.replies i).success = true) :
    ∃ position, stretch.opened ≤ position ∧ position < stretch.closed ∧
      ReportsArrival next.sockets.log position (stretch.replies i) := by
  obtain ⟨before, number, during, after, opened, closed, rfl, enters, serves⟩ :=
    probes.serves i inside
  have ran := probes.ran
  rw [run_append, enters, Option.bind_some, run_append, serves.ran, Option.bind_some] at ran
  have reports := reportsArrival_grows
    (reportsArrival_of_serves (reached_append reached enters) serves success)
    (log_prefix_of_run ran)
  refine ⟨opened.sockets.log.length, ?_, ?_, reports⟩
  · rw [probes.covers.opened]
    exact (log_prefix_of_run enters).length_le
  · obtain ⟨_, _, reportsDatagram⟩ := reports
    rw [probes.covers.closed]
    exact (List.getElem?_eq_some_iff.mp reportsDatagram.arrived).1

theorem names_of_probes {world : HopWorld} {hop : TracertHop}
    (reached : Host.start.run earlier = some host)
    (probes : Probes addr ttl manager.timeout host events stretch next)
    (grows : next.sockets.log <+: last.sockets.log)
    (replies : ∀ i < 3, world.probe i addr ttl manager.timeout = .ok (stretch.replies i))
    (returned : manager.tracertHop world addr ttl = .ok hop) :
    ∃ origin : Option Nat, (hop.status = .success ↔ origin.isSome) ∧
      ∀ position, origin = some position → Names last stretch hop position := by
  have reports (i : Nat) (inside : i < 3) (success : (stretch.replies i).success = true) :
      ∃ position, stretch.opened ≤ position ∧ position < stretch.closed ∧
        (stretch.replies i).srcIp = sourceAt last position ∧ (stretch.replies i).srcIp ≠ "" := by
    obtain ⟨position, above, below, arrival⟩ :=
      reportsArrival_of_probes reached probes inside success
    obtain ⟨source, named⟩ := srcIp_of_reportsArrival (reportsArrival_grows arrival grows)
    exact ⟨position, above, below, source, source ▸ named⟩
  have isNamed (i : Nat) (inside : i < 3) (success : (stretch.replies i).success = true) :
      (stretch.replies i).srcIp ≠ "" := by
    obtain ⟨_, _, _, _, named⟩ := reports i inside success
    exact named
  rw [tracertHop_of_named replies isNamed] at returned
  obtain rfl := Except.ok.inj returned
  cases first : ((List.range 3).map stretch.replies).find? EchoResult.success with
  | none =>
      have silent : ((List.range 3).map stretch.replies).any EchoResult.success = false := by
        rw [List.any_eq_false]
        exact List.find?_eq_none.mp first
      refine ⟨none, ?_, by simp⟩
      simp [hopOfReplies, silent]
  | some reply =>
      have success := List.find?_some first
      have present := List.mem_of_find?_eq_some first
      have answered : ((List.range 3).map stretch.replies).any EchoResult.success = true :=
        List.any_eq_true.mpr ⟨reply, present, success⟩
      obtain ⟨i, inside, rfl⟩ := List.mem_map.mp present
      obtain ⟨position, above, below, source, _⟩ :=
        reports i (List.mem_range.mp inside) success
      refine ⟨some position, ?_, ?_⟩
      · simp [hopOfReplies, answered]
      · rintro other isPosition
        obtain rfl := Option.some.inj isPosition
        refine ⟨above, below, ?_⟩
        simp only [hopOfReplies, answered, if_true, firstSource, first, Option.map_some,
          Option.getD_some]
        exact source

end Probes

section Runs

variable {ttl : Nat}

theorem run_of_traceRuns (runs : TraceRuns addr timeout ttl host events stretches last) :
    host.run events = some last := by
  induction runs with
  | done ran => exact ran
  | hop paused probes _ ih =>
      rw [run_append, paused, Option.bind_some, run_append, probes.ran]
      exact ih

theorem inTurn_of_traceRuns (runs : TraceRuns addr timeout ttl host events stretches last) :
    Stretch.InTurn host.sockets.log.length (stretches.map HopStretch.toStretch)
      last.sockets.log.length := by
  induction runs with
  | done ran => exact (log_prefix_of_run ran).length_le
  | hop paused probes _ ih =>
      rw [List.map_cons]
      refine ⟨?_, ?_⟩
      · rw [probes.covers.opened]
        exact (log_prefix_of_run paused).length_le
      · rw [probes.covers.closed]
        exact ih

/-- Each hop of the run is probed from a reachable state on. -/
theorem probes_of_traceRuns (reached : Host.start.run earlier = some host)
    (runs : TraceRuns addr timeout ttl host events stretches last) :
    ∀ (k : Nat) stretch, stretches[k]? = some stretch →
      ∃ before during opened closed, Host.start.run before = some opened ∧
        Probes addr ((ttl + k : Nat) : Int) timeout opened during stretch closed ∧
        closed.sockets.log <+: last.sockets.log := by
  induction runs generalizing earlier with
  | done => simp
  | hop paused probes rest ih =>
      have opened := reached_append reached paused
      intro k stretch here
      cases k with
      | zero =>
          obtain rfl := Option.some.inj here
          exact ⟨_, _, _, _, opened, probes, log_prefix_of_run (run_of_traceRuns rest)⟩
      | succ k =>
          rw [Nat.add_comm k, ← Nat.add_assoc]
          exact ih (reached_append opened probes.ran) k stretch here

end Runs

section Traces

variable {world : Nat → HopWorld} {hops : List TracertHop} {message : String}

/-- A loop that returns has added what its hops return. -/
theorem hops_of_tracertLoop {remaining ttl : Nat} {before result : List TracertHop}
    {text : String} {reached : Bool}
    (looped : manager.tracertLoop world addr remaining ttl before message =
      .ok (result, text, reached)) :
    ∃ added, result = before ++ added ∧ ∀ (k : Nat) hop, added[k]? = some hop →
      manager.tracertHop (world (ttl + k)) addr ((ttl + k : Nat) : Int) = .ok hop := by
  induction remaining generalizing ttl before message with
  | zero =>
      obtain ⟨rfl, _⟩ := Prod.mk.inj (Except.ok.inj looped)
      exact ⟨[], (List.append_nil _).symm, by simp⟩
  | succ remaining ih =>
      cases returned : manager.tracertHop (world ttl) addr ttl with
      | error e =>
          rw [IcmpManager.tracertLoop, returned] at looped
          cases looped
      | ok first =>
          have single : ∀ (k : Nat) hop, [first][k]? = some hop →
              manager.tracertHop (world (ttl + k)) addr ((ttl + k : Nat) : Int) = .ok hop := by
            intro k hop here
            cases k with
            | zero =>
                obtain rfl := Option.some.inj here
                exact returned
            | succ k => simp at here
          rw [tracertLoop_succ returned] at looped
          split at looped
          · obtain ⟨rfl, _⟩ := Prod.mk.inj (Except.ok.inj looped)
            exact ⟨[first], rfl, single⟩
          · split at looped
            · obtain ⟨rfl, _⟩ := Prod.mk.inj (Except.ok.inj looped)
              exact ⟨[first], rfl, single⟩
            · obtain ⟨added, rfl, rest⟩ := ih looped
              refine ⟨first :: added, by rw [List.append_assoc]; rfl, ?_⟩
              intro k hop here
              cases k with
              | zero => exact single 0 hop here
              | succ k =>
                  rw [Nat.add_comm k, ← Nat.add_assoc]
                  exact rest k hop here

theorem hops_of_tracert {maxHops : Option Int}
    (traced : manager.tracert world addr maxHops = .ok (hops, message)) :
    ∀ (k : Nat) hop, hops[k]? = some hop →
      manager.tracertHop (world (1 + k)) addr ((1 + k : Nat) : Int) = .ok hop := by
  simp only [IcmpManager.tracert] at traced
  cases looped : manager.tracertLoop world addr (maxHops.getD manager.maxHops).toNat 1 []
      s!"Tracing route to {addr} over a maximum of {maxHops.getD manager.maxHops} hops:\n" with
  | error e =>
      rw [looped] at traced
      cases traced
  | ok outcome =>
      obtain ⟨result, text, reached⟩ := outcome
      rw [looped] at traced
      obtain ⟨rfl, _⟩ := Prod.mk.inj (Except.ok.inj traced)
      obtain ⟨added, rfl, returned⟩ := hops_of_tracertLoop looped
      exact returned

/-- In each run of a host the hops take stretches of the log in turn. A hop that succeeds shows the
source of a datagram that arrives during this hop, so that no datagram names two hops. -/
theorem tracert_names {maxHops : Option Int} (reached : Host.start.run earlier = some host)
    (runs : TraceRuns addr manager.timeout 1 host events stretches last)
    (replies : ∀ (k : Nat) stretch, stretches[k]? = some stretch → ∀ i < 3,
      (world (1 + k)).probe i addr ((1 + k : Nat) : Int) manager.timeout =
        .ok (stretch.replies i))
    (traced : manager.tracert world addr maxHops = .ok (hops, message))
    (made : stretches.length = hops.length) :
    Stretch.InTurn host.sockets.log.length (stretches.map HopStretch.toStretch)
        last.sockets.log.length ∧
      ∃ crediting : Crediting, ∀ (k : Nat) stretch hop, stretches[k]? = some stretch →
        hops[k]? = some hop → (hop.status = .success ↔ (crediting.origin k).isSome) ∧
          ∀ position, crediting.origin k = some position → Names last stretch hop position := by
  have inTurn := inTurn_of_traceRuns runs
  have named (k : Nat) : ∃ origin : Option Nat, (hops.length ≤ k → origin = none) ∧
      ∀ stretch hop, stretches[k]? = some stretch → hops[k]? = some hop →
        (hop.status = .success ↔ origin.isSome) ∧
          ∀ position, origin = some position → Names last stretch hop position := by
    rcases Nat.lt_or_ge k hops.length with inside | outside
    · have within : k < stretches.length := made ▸ inside
      have here := List.getElem?_eq_getElem inside
      have there := List.getElem?_eq_getElem within
      obtain ⟨before, during, opened, closed, reachedHop, probes, grows⟩ :=
        probes_of_traceRuns reached runs k _ there
      obtain ⟨origin, succeeds, names⟩ := names_of_probes reachedHop probes grows
        (replies k _ there) (hops_of_tracert traced k _ here)
      refine ⟨origin, fun outside => absurd inside (Nat.not_lt.mpr outside), ?_⟩
      rintro stretch hop isStretch isHop
      obtain rfl := Option.some.inj (there.symm.trans isStretch)
      obtain rfl := Option.some.inj (here.symm.trans isHop)
      exact ⟨succeeds, names⟩
    · refine ⟨none, fun _ => rfl, fun stretch hop isStretch => ?_⟩
      have inside := (List.getElem?_eq_some_iff.mp isStretch).1
      omega
  choose origin silent names using named
  refine ⟨inTurn, .ofInTurn inTurn origin fun k position isOrigin => ?_, names⟩
  have inside : k < hops.length := by
    by_contra outside
    rw [silent k (Nat.not_lt.mp outside)] at isOrigin
    cases isOrigin
  have there := List.getElem?_eq_getElem (made ▸ inside : k < stretches.length)
  have here := List.getElem?_eq_getElem inside
  obtain ⟨above, below, _⟩ := (names k _ _ there here).2 position isOrigin
  exact ⟨_, by rw [List.getElem?_map, there, Option.map_some], above, below⟩

/-- The clients of the hop are closed in the order of their opening. -/
def hopUses : List HostEvent := hopEnters ++ (hopEvents ++ [.exit 0, .exit 1, .exit 2])

def hopStretch : HopStretch := ⟨soleStretch, fun _ => hopReply⟩

/-- The first two clients of the hop are open. -/
def twiceOpenHost : Host :=
  Host.setClient { openHost with sockets := openHost.sockets.subscribe 1 } 1 { hasSocket := true }

/-- The only hop of this trace shows the source of its reply. -/
theorem tracert_names_host :
    ∃ last hops message, Host.start.run hopUses = some last ∧
      IcmpManager.tracert {} (fun _ => hopWorld) "host" (some 1) = .ok (hops, message) ∧
      Stretch.InTurn Host.start.sockets.log.length ([hopStretch].map HopStretch.toStretch)
        last.sockets.log.length ∧
      ∃ crediting : Crediting, ∀ (k : Nat) stretch hop, [hopStretch][k]? = some stretch →
        hops[k]? = some hop → (hop.status = .success ↔ (crediting.origin k).isSome) ∧
          ∀ position, crediting.origin k = some position → Names last stretch hop position := by
  have arrivals : (Host.start.run hopUses).map (fun last => last.sockets.log.length) =
      some 1 := by
    decide +kernel
  have returned : (IcmpManager.tracert {} (fun _ => hopWorld) "host" (some 1)).toOption.map
      (fun traced => traced.1.length) = some 1 := by
    decide +kernel
  obtain ⟨last, ran, length⟩ := Option.map_eq_some_iff.mp arrivals
  obtain ⟨⟨hops, message⟩, isTraced, once⟩ := Option.map_eq_some_iff.mp returned
  have traced : IcmpManager.tracert {} (fun _ => hopWorld) "host" (some 1) =
      .ok (hops, message) := by
    cases outcome : IcmpManager.tracert {} (fun _ => hopWorld) "host" (some 1) with
    | error e =>
        rw [outcome] at isTraced
        cases isTraced
    | ok value =>
        rw [outcome] at isTraced
        rw [Option.some.inj isTraced]
  have first : ∃ closed, Serves "host" 1 5 Host.start 0
      ([.enter 1, .enter 2] ++ hopEvents) (.ok hopReply) closed :=
    serves_of_results rfl (by simp [hopEvents]) (by simp [hopEvents]) (by decide +kernel)
  have second : ∃ closed, Serves "host" 1 5 openHost 1
      ([.enter 2] ++ (hopEvents ++ [.exit 0])) (.ok hopReply) closed :=
    serves_of_results rfl (by simp [hopEvents]) (by simp [hopEvents]) (by decide +kernel)
  have third : ∃ closed, Serves "host" 1 5 twiceOpenHost 2
      (hopEvents ++ [.exit 0, .exit 1]) (.ok hopReply) closed :=
    serves_of_results rfl (by simp [hopEvents]) (by simp [hopEvents]) (by decide +kernel)
  have probes : Probes "host" 1 5 Host.start hopUses hopStretch last := by
    refine ⟨⟨rfl, length.symm⟩, ran, ?_⟩
    obtain ⟨firstClosed, servesFirst⟩ := first
    obtain ⟨secondClosed, servesSecond⟩ := second
    obtain ⟨thirdClosed, servesThird⟩ := third
    intro i inside
    obtain rfl | rfl | rfl : i = 0 ∨ i = 1 ∨ i = 2 := by omega
    · exact ⟨[], 0, _, [.exit 1, .exit 2], _, _, rfl, rfl, servesFirst⟩
    · exact ⟨[.enter 0], 1, _, [.exit 2], _, _, rfl, rfl, servesSecond⟩
    · exact ⟨[.enter 0, .enter 1], 2, _, [], _, _, rfl, rfl, servesThird⟩
  have runs : TraceRuns "host" 5 1 Host.start ([] ++ (hopUses ++ [])) [hopStretch] last :=
    .hop rfl probes (.done rfl)
  refine ⟨last, hops, message, ran, traced, ?_⟩
  exact @tracert_names {} "host" Host.start last [] _ [hopStretch] (fun _ => hopWorld) hops
    message (some 1) rfl runs (fun _ _ here _ _ => by
      obtain rfl := List.mem_singleton.mp (List.mem_of_getElem? here)
      rfl) traced once.symm

end Traces

end NetworkTools
